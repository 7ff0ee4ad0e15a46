import Mathlib.Data.List.Basic

/-! The capability vocabulary: the persisted tokens with their open-set parsers,
and the canonical form of a capability key. -/
namespace Routectl.Core

inductive SignalTier where
  | selfIdentifying
  | inferred
deriving Repr, DecidableEq

def SignalTier.asStr : SignalTier → String
  | .selfIdentifying => "self-identifying"
  | .inferred => "inferred"

def SignalTier.parse (token : String) : Option SignalTier :=
  if token = "self-identifying" then some .selfIdentifying
  else if token = "inferred" then some .inferred
  else none

@[simp] theorem SignalTier.parse_asStr (tier : SignalTier) : parse tier.asStr = some tier := by
  cases tier <;> decide

inductive FailurePhase where
  | f1
  | f2
  | f3
deriving Repr, DecidableEq

def FailurePhase.asStr : FailurePhase → String
  | .f1 => "f1"
  | .f2 => "f2"
  | .f3 => "f3"

def FailurePhase.parse (token : String) : Option FailurePhase :=
  if token = "f1" then some .f1
  else if token = "f2" then some .f2
  else if token = "f3" then some .f3
  else none

@[simp] theorem FailurePhase.parse_asStr (phase : FailurePhase) : parse phase.asStr = some phase := by
  cases phase <;> decide

inductive EvidenceSource where
  | live
  | probe
deriving Repr, DecidableEq

def EvidenceSource.asStr : EvidenceSource → String
  | .live => "live"
  | .probe => "probe"

def EvidenceSource.parse (token : String) : Option EvidenceSource :=
  if token = "live" then some .live
  else if token = "probe" then some .probe
  else none

@[simp] theorem EvidenceSource.parse_asStr (source : EvidenceSource) :
    parse source.asStr = some source := by
  cases source <;> decide

/-- The derived read-model verdict. The prior of `assumed` and the phase of
`learnedBroken` live in sibling ledger columns, not in the token. -/
inductive Verdict where
  | assumed (prior : Bool)
  | verifiedWorking
  | learnedBroken (phase : FailurePhase)
  | suspectIgnored
  | cleared
  | unknown
deriving Repr, DecidableEq

def Verdict.asStr : Verdict → String
  | .assumed _ => "assumed"
  | .verifiedWorking => "verified"
  | .learnedBroken _ => "broken"
  | .suspectIgnored => "suspect"
  | .cleared => "cleared"
  | .unknown => "unknown"

def evidenceClasses : List String :=
  ["schema_parse", "schema_mismatch", "search_blocks", "search_absent_forced", "cache_hit",
    "thinking_blocks"]

def isKnownEvidenceClass (token : String) : Bool := evidenceClasses.contains token

def bedrockRequestBagPrefixes : List String := ["additionalModelRequestFields", "toolConfig"]

def segments (raw : String) : List (List Char) :=
  (raw.toList.splitOn '.').filter fun segment => !segment.isEmpty

def normalizeBedrockKey (raw : String) : String :=
  match segments raw with
  | [] => raw
  | first :: rest =>
    if bedrockRequestBagPrefixes.contains (String.ofList first) then
      match rest with
      | following :: _ => String.ofList following
      | [] => String.ofList first
    else String.ofList first

def normalizeCapabilityKey (raw providerKind : String) : String :=
  if providerKind = "bedrock" then normalizeBedrockKey raw else raw

theorem normalizeCapabilityKey_other {providerKind : String} (other : providerKind ≠ "bedrock")
    (raw : String) : normalizeCapabilityKey raw providerKind = raw := if_neg other

theorem compat_ne_bedrock : "openai-compat" ≠ "bedrock" := by decide

private theorem segment_clean {source : List Char} {segment : List Char}
    (member : segment ∈ source.splitOn '.') : '.' ∉ segment := by
  induction source generalizing segment with
  | nil =>
    simp only [List.splitOn_nil, List.mem_singleton] at member
    simp [member]
  | cons head rest ih =>
    rw [List.splitOn_cons_eq_if_modifyHead] at member
    split at member
    · rcases List.mem_cons.mp member with same | later
      · simp [same]
      · exact ih later
    · rename_i other
      cases pieces : rest.splitOn '.' with
      | nil => exact absurd pieces (List.splitOn_ne_nil '.' rest)
      | cons first remaining =>
        rw [pieces, List.modifyHead_cons] at member
        rcases List.mem_cons.mp member with same | later
        · subst same
          have clean : '.' ∉ first := ih (by simp [pieces])
          have different : head ≠ '.' := by simpa using other
          simp [clean, Ne.symm different]
        · exact ih (by simp [pieces, later])

private theorem segments_mem {raw : String} {segment : List Char}
    (member : segment ∈ segments raw) : segments (String.ofList segment) = [segment] := by
  obtain ⟨piece, nonempty⟩ := List.mem_filter.mp member
  have alone := List.splitOn_eq_singleton (segment_clean piece)
  simp [segments, String.toList_ofList, alone, nonempty]

private theorem normalizeBedrockKey_segment {raw : String} {segment : List Char}
    (member : segment ∈ segments raw) :
    normalizeBedrockKey (String.ofList segment) = String.ofList segment := by
  simp [normalizeBedrockKey, segments_mem member]

theorem normalizeBedrockKey_idempotent (raw : String) :
    normalizeBedrockKey (normalizeBedrockKey raw) = normalizeBedrockKey raw := by
  cases pieces : segments raw with
  | nil => simp [normalizeBedrockKey, pieces]
  | cons first rest =>
    have head : first ∈ segments raw := by simp [pieces]
    cases rest with
    | nil => simpa [normalizeBedrockKey, pieces] using normalizeBedrockKey_segment head
    | cons following others =>
      have next : following ∈ segments raw := by simp [pieces]
      by_cases bag : bedrockRequestBagPrefixes.contains (String.ofList first) = true
      · have reduced : normalizeBedrockKey raw = String.ofList following := by
          simp only [normalizeBedrockKey, pieces, if_pos bag]
        rw [reduced, normalizeBedrockKey_segment next]
      · have reduced : normalizeBedrockKey raw = String.ofList first := by
          simp only [normalizeBedrockKey, pieces, if_neg bag]
        rw [reduced, normalizeBedrockKey_segment head]

/-- A second pass changes nothing, so an inserted key and a later lookup by its
canonical form meet. -/
@[simp] theorem normalizeCapabilityKey_idempotent (raw providerKind : String) :
    normalizeCapabilityKey (normalizeCapabilityKey raw providerKind) providerKind =
      normalizeCapabilityKey raw providerKind := by
  unfold normalizeCapabilityKey
  split
  · exact normalizeBedrockKey_idempotent raw
  · rfl

example : normalizeCapabilityKey "toolConfig.tools.toolSpec.inputSchema" "bedrock" = "tools" := by
  decide

def fieldCapabilityPrefix : String := "field:"

/-- Every key outside the field namespace is scoped to its catalog revision. -/
def capabilityKeyIsCatalogScoped (key : String) : Bool :=
  !fieldCapabilityPrefix.toList.isPrefixOf key.toList

/-- The identity of an envelope-field verdict. -/
structure FieldVerdictKey where
  stateKey : String
  capabilityKey : String
  providerKind : String
deriving Repr, DecidableEq

end Routectl.Core
