import Routectl.Ledger.Event
import Routectl.Replay.Egress

/-! Reasoning artifacts a lane is not proven to accept: one request at a time carries them, as
the probe of the pair, and settles what it proved. -/
namespace Routectl.Learn
open Routectl.Core Library Registry Ledger
open Routectl.Schema (ReasoningDetail)
open Routectl.Replay (Message ReplayScheme Replayability schemeOf isReplayable)

/-! ### The artifacts of a request -/

def isRemovable (lane : ReplayScheme) (detail : ReasoningDetail) : Bool :=
  match isReplayable (schemeOf detail.format) lane with
  | .strip | .gray => true
  | .carry => false

def isPortable (format : Option String) (lane : ReplayScheme) : Bool :=
  isReplayable (schemeOf format) lane = .carry

/-- The requests's messages without what the lane's validator would reject, and whether that
took anything away. -/
def stripReplayArtifacts (lane : ReplayScheme) (messages : List Message) : List Message × Bool :=
  let hasRemovable := messages.any fun message => message.reasoningDetails.any (isRemovable lane)
  if hasRemovable then
    (messages.map fun message =>
      { message with
        reasoningDetails := message.reasoningDetails.filter fun detail => !isRemovable lane detail },
     true)
  else (messages, false)

def collectScheme (lane : ReplayScheme) (out : List ReplayScheme) (detail : ReasoningDetail) :
    List ReplayScheme :=
  let scheme := schemeOf detail.format
  if !isPortable detail.format lane && !out.contains scheme then out ++ [scheme] else out

/-- The distinct schemes of the artifacts not proven portable, as they are first seen. -/
def nonportableSchemes (messages : List Message) (lane : ReplayScheme) : List ReplayScheme :=
  (messages.flatMap Message.reasoningDetails).foldl (collectScheme lane) []

section Artifacts
variable {lane scheme : ReplayScheme} {messages : List Message} {details : List ReasoningDetail}

theorem not_removable_iff (detail : ReasoningDetail) :
    isRemovable lane detail = false ↔ isPortable detail.format lane = true := by
  unfold isRemovable isPortable
  cases isReplayable (schemeOf detail.format) lane with
  | carry => decide
  | strip => decide
  | gray => decide

theorem mem_collected (out : List ReplayScheme) :
    scheme ∈ details.foldl (collectScheme lane) out ↔ scheme ∈ out ∨
      ∃ detail ∈ details, schemeOf detail.format = scheme ∧
        isPortable detail.format lane = false := by
  induction details generalizing out with
  | nil => simp
  | cons detail rest ih =>
    have here : scheme ∈ collectScheme lane out detail ↔ scheme ∈ out ∨
        (schemeOf detail.format = scheme ∧ isPortable detail.format lane = false) := by
      unfold collectScheme
      cases portable : isPortable detail.format lane with
      | true => simp
      | false =>
        by_cases seen : schemeOf detail.format ∈ out
        · simp only [List.elem_eq_contains.symm, List.elem_eq_true_of_mem seen, Bool.not_false,
            Bool.not_true, Bool.and_false, Bool.false_eq_true, if_false, and_true]
          exact ⟨Or.inl, fun either => either.elim id fun same => same ▸ seen⟩
        · simp [seen, eq_comm]
    rw [List.foldl_cons, ih, here]
    simp only [List.mem_cons, exists_eq_or_imp, or_assoc]

theorem mem_nonportableSchemes :
    scheme ∈ nonportableSchemes messages lane ↔ ∃ message ∈ messages,
      ∃ detail ∈ message.reasoningDetails, schemeOf detail.format = scheme ∧
        isPortable detail.format lane = false := by
  rw [nonportableSchemes, mem_collected]
  simp only [List.not_mem_nil, false_or, List.mem_flatMap]
  constructor
  · intro found
    obtain ⟨detail, ⟨message, member, inside⟩, spec⟩ := found
    exact ⟨message, member, detail, inside, spec⟩
  · intro found
    obtain ⟨message, member, detail, inside, spec⟩ := found
    exact ⟨detail, ⟨message, member, inside⟩, spec⟩

/-- What is stripped carries nothing the lane is not proven to accept. -/
theorem nonportableSchemes_strip :
    nonportableSchemes (stripReplayArtifacts lane messages).1 lane = [] := by
  apply List.eq_nil_iff_forall_not_mem.mpr
  intro scheme member
  obtain ⟨message, here, detail, inside, -, refused⟩ := mem_nonportableSchemes.mp member
  have removable : isRemovable lane detail = true := by
    rw [← Bool.not_eq_false, not_removable_iff, refused]
    decide
  unfold stripReplayArtifacts at here
  dsimp only at here
  split at here
  · obtain ⟨original, -, rfl⟩ := List.mem_map.mp here
    have kept := (List.mem_filter.mp inside).2
    rw [removable] at kept
    cases kept
  · rename_i nothing
    apply nothing
    exact List.any_eq_true.mpr ⟨message, here, List.any_eq_true.mpr ⟨detail, inside, removable⟩⟩

end Artifacts

/-! ### Pairs, guards and their settlement -/

def schemeToken : ReplayScheme → String
  | .codex => "codex"
  | .mantle => "mantle"
  | .gray => "gray"

theorem schemeToken_inj {scheme other : ReplayScheme}
    (same : schemeToken scheme = schemeToken other) : scheme = other := by
  cases scheme <;> cases other <;> first | rfl | exact absurd same (by decide)

def reasoningReplay : String := "reasoning_replay"

/-- One learned replay truth: artifacts of a scheme, replayed onto a lane of a provider. -/
structure ReplayLearnKey where
  laneKey : String
  capabilityKey : String
  providerKind : String
  canonical : normalizeCapabilityKey capabilityKey providerKind = capabilityKey

theorem ReplayLearnKey.ext_iff {left right : ReplayLearnKey} : left = right ↔
    left.laneKey = right.laneKey ∧ left.capabilityKey = right.capabilityKey ∧
      left.providerKind = right.providerKind := by
  cases left with
  | mk leftLane leftCapability leftKind leftCanonical =>
    cases right with
    | mk rightLane rightCapability rightKind rightCanonical => simp

instance : DecidableEq ReplayLearnKey := fun _ _ => decidable_of_iff _ ReplayLearnKey.ext_iff.symm

namespace ReplayLearnKey

def new (laneStateKey providerKind : String) (lane artifact : ReplayScheme) : ReplayLearnKey :=
  { laneKey := laneStateKey ++ "#" ++ schemeToken lane
    capabilityKey :=
      normalizeCapabilityKey (reasoningReplay ++ ":" ++ schemeToken artifact) providerKind
    providerKind
    canonical := normalizeCapabilityKey_idempotent _ providerKind }

def registryKey (key : ReplayLearnKey) : RegistryKey := ⟨key.laneKey, key.capabilityKey⟩

@[simp] theorem makeKey_eq (key : ReplayLearnKey) :
    makeKey key.laneKey key.capabilityKey key.providerKind = key.registryKey := by
  simp [makeKey, registryKey, key.canonical]

/-- The provider's name may hold any characters: the lane is read from the end. -/
theorem laneKey_inj {first second : String} {lane other : ReplayScheme}
    (same : first ++ "#" ++ schemeToken lane = second ++ "#" ++ schemeToken other) :
    first = second ∧ lane = other := by
  have ends := congrArg (fun text : String => text.toList.getLast?) same
  have lanes : lane = other := by
    cases lane <;> cases other <;> first | rfl | simp [schemeToken] at ends
  subst lanes
  have texts := congrArg String.toList same
  simp only [String.toList_append, List.append_assoc] at texts
  exact ⟨String.toList_injective (List.append_cancel_right texts), rfl⟩

theorem capabilityKey_inj {providerKind : String} {artifact other : ReplayScheme}
    (same : normalizeCapabilityKey (reasoningReplay ++ ":" ++ schemeToken artifact) providerKind =
      normalizeCapabilityKey (reasoningReplay ++ ":" ++ schemeToken other) providerKind) :
    artifact = other := by
  have plain : ∀ scheme : ReplayScheme,
      normalizeCapabilityKey (reasoningReplay ++ ":" ++ schemeToken scheme) providerKind =
        reasoningReplay ++ ":" ++ schemeToken scheme := by
    intro scheme
    unfold normalizeCapabilityKey
    split
    · cases scheme with
      | codex => decide
      | mantle => decide
      | gray => decide
    · rfl
  rw [plain, plain] at same
  have texts := congrArg String.toList same
  simp only [String.toList_append] at texts
  exact schemeToken_inj (String.toList_injective (List.append_cancel_left texts))

/-- Pairs of different providers, kinds, lanes or artifacts are different keys. -/
theorem new_inj {first second kind otherKind : String}
    {lane otherLane artifact otherArtifact : ReplayScheme} :
    ReplayLearnKey.new first kind lane artifact =
        ReplayLearnKey.new second otherKind otherLane otherArtifact ↔
      first = second ∧ kind = otherKind ∧ lane = otherLane ∧ artifact = otherArtifact := by
  constructor
  · intro same
    obtain ⟨lanes, capabilities, rfl⟩ := ReplayLearnKey.mk.inj same
    obtain ⟨rfl, rfl⟩ := laneKey_inj lanes
    exact ⟨rfl, rfl, rfl, capabilityKey_inj capabilities⟩
  · intro same
    obtain ⟨rfl, rfl, rfl, rfl⟩ := same
    rfl

end ReplayLearnKey

structure ReplayProbeGuard where
  key : ReplayLearnKey
  generation : Nat
deriving DecidableEq

inductive ReplayAdmission where
  | admitted (guard : ReplayProbeGuard)
  | acting
  | carried
  | stale

section Registry
variable (learned : LearnedCapabilityRegistry) (inFlight : Finset ReplayLearnKey)

/-- The claim and the decay read are one critical section. -/
def admitProvisional (key : ReplayLearnKey) (generation now : Nat) :
    Finset ReplayLearnKey × ReplayAdmission :=
  if key ∈ inFlight then (inFlight, .carried)
  else
    match (learned.negativeStateInGeneration generation key.laneKey key.capabilityKey
        key.providerKind now).2 with
    | none => (inFlight, .stale)
    | some (.acting, _) => (inFlight, .acting)
    | some (.absent, granted) => (insert key inFlight, .admitted ⟨key, granted⟩)
    | some (.lapsed, granted) => (insert key inFlight, .admitted ⟨key, granted⟩)

/-- A repair that succeeded: the negative is persisted, where the registry takes it. -/
def ReplayProbeGuard.commit (guard : ReplayProbeGuard) (now : Nat) :
    LearnedCapabilityRegistry × Option CapabilityLearnEvent :=
  match learned.observeInGenerationWithObservations guard.generation guard.key.laneKey
      guard.key.capabilityKey guard.key.providerKind .selfIdentifying .f1 .live none now with
  | (after, .applied (_, observations) incarnation persistenceGeneration) =>
    (after, some
      { persistenceGeneration, incarnation, stateKey := guard.key.laneKey,
        capabilityKey := guard.key.capabilityKey, providerKind := guard.key.providerKind,
        signalTier := .selfIdentifying, observations, phase := .f1, source := .live })
  | (after, _) => (after, none)

/-- A carry that succeeded: a resident negative goes. -/
def ReplayProbeGuard.clear (guard : ReplayProbeGuard) :
    LearnedCapabilityRegistry × Option CapabilityClearedEvent :=
  match learned.removeKeyedInGeneration guard.generation guard.key.laneKey
      guard.key.capabilityKey guard.key.providerKind with
  | (after, .applied cleared incarnation persistenceGeneration) =>
    (after,
      if cleared then
        some { persistenceGeneration, incarnation, stateKey := guard.key.laneKey,
               capabilityKey := guard.key.capabilityKey, providerKind := guard.key.providerKind }
      else none)
  | (after, _) => (after, none)

end Registry

section Settlement
variable {learned : LearnedCapabilityRegistry} {guard : ReplayProbeGuard} {now : Nat}
variable {key : RegistryKey} {entry : LearnedEntry}

/-- After a commit an entry is one from before, or the pair's, told by the row at its
incarnation. -/
theorem commit_resident (resident : (guard.commit learned now).1.entries.lookup key = some entry) :
    learned.entries.lookup key = some entry ∨
      ∃ event, (guard.commit learned now).2 = some event ∧ event.incarnation = entry.incarnation ∧
        (⟨event.stateKey, event.capabilityKey⟩ : RegistryKey) = key := by
  unfold ReplayProbeGuard.commit at resident ⊢
  unfold LearnedCapabilityRegistry.observeInGenerationWithObservations
    LearnedCapabilityRegistry.guardedFor at resident ⊢
  rw [ReplayLearnKey.makeKey_eq] at resident ⊢
  cases admitted : learned.admits guard.generation guard.key.capabilityKey with
  | false =>
    rw [LearnedCapabilityRegistry.guardedKeyed_stale admitted] at resident
    exact Or.inl resident
  | true =>
    by_cases leased : guard.key.registryKey ∈ learned.purgeLeases
    · rw [LearnedCapabilityRegistry.guardedKeyed_reserved admitted leased] at resident
      exact Or.inl resident
    · obtain room | full := Nat.lt_or_ge learned.nextIncarnation u64Max
      · rw [LearnedCapabilityRegistry.guardedKeyed_mutate admitted leased room] at resident ⊢
        by_cases own : key = guard.key.registryKey
        · subst own
          right
          dsimp only at resident
          rw [KeyedMap.lookup_modify_self] at resident
          obtain ⟨before, -, rfl⟩ := Option.map_eq_some_iff.mp resident
          exact ⟨_, rfl, rfl, rfl⟩
        · left
          dsimp only at resident
          rw [KeyedMap.lookup_modify_ne own] at resident
          have spec := @observeIn_spec learned.tuning learned.entries learned.purgeLeases
            guard.key.registryKey .selfIdentifying .f1 .live none now
          obtain same | ⟨gone, -⟩ := spec.2.2 key own
          · exact same ▸ resident
          · rw [gone] at resident
            cases resident
      · rw [LearnedCapabilityRegistry.guardedKeyed_exhausted admitted leased full] at resident
        exact Or.inl resident

/-- A clear adds no entry. -/
theorem clear_resident (resident : (guard.clear learned).1.entries.lookup key = some entry) :
    learned.entries.lookup key = some entry := by
  have same : (guard.clear learned).1 = (learned.removeKeyedInGeneration guard.generation
      guard.key.laneKey guard.key.capabilityKey guard.key.providerKind).1 := by
    unfold ReplayProbeGuard.clear
    split
    · rename_i after cleared incarnation persistenceGeneration taken
      rw [taken]
    · rename_i after refused taken
      rw [taken]
  have removed := GuardedCall.apply_step learned
    ⟨guard.generation, guard.key.laneKey, guard.key.capabilityKey, guard.key.providerKind,
      .removeKeyed⟩
  simp only [GuardedCall.apply, GuardedCall.key, ReplayLearnKey.makeKey_eq] at removed
  rw [← same] at removed
  by_cases own : key = guard.key.registryKey
  · subst own
    generalize (guard.clear learned).1 = after at removed resident
    cases removed with
    | refused => exact resident
    | exhausted full count => exact resident
    | mutated entries unleased room slot frame =>
      dsimp only at resident
      rw [slot] at resident
      cases resident
  · obtain kept | gone := removed.lookup_other own
    · exact kept ▸ resident
    · rw [gone] at resident
      cases resident

end Settlement

/-! ### One request -/

inductive ReplayRow where
  | learned (event : CapabilityLearnEvent)
  | cleared (event : CapabilityClearedEvent)

/-- What a request is sent with: nothing to prove, what a superseded router leaves alone, the
guards of all it carries, or its stripped form after the rejection. -/
inductive CarryPlan where
  | unplanned
  | superseded
  | held
  | repaired
deriving DecidableEq

/-- What follows once the guards taken so far are dropped. -/
inductive Onward where
  | stripped
  | unchanged
  | finished
deriving DecidableEq

/-- `releasing` is between a guard's settlement and the release of its slot. -/
inductive CarryPhase where
  | admitting (remaining : List ReplayScheme)
  | dropping (onward : Onward)
  | sending (plan : CarryPlan)
  | settling (repaired : Bool)
  | releasing (repaired : Bool) (row : Option ReplayRow)
  | ended

/-- One request at one target; `rows` is what it hands to the ledger. -/
structure Carry where
  provider : String
  providerKind : String
  lane : ReplayScheme
  generation : Nat
  messages : List Message
  phase : CarryPhase
  guards : List ReplayProbeGuard := []
  rows : List ReplayRow := []

inductive CarryAct where
  | tryAdmit (now : Nat)
  | release
  | finish
  | reject
  | succeed
  | settle (now : Nat)
  | abandon

namespace Carry

def pair (carry : Carry) (scheme : ReplayScheme) : ReplayLearnKey :=
  .new carry.provider carry.providerKind carry.lane scheme

def keys (carry : Carry) : List ReplayLearnKey := carry.guards.map ReplayProbeGuard.key

def schemes (carry : Carry) : List ReplayScheme := nonportableSchemes carry.messages carry.lane

/-- The rows handed over, and the one about to be. -/
def told (carry : Carry) : List ReplayRow :=
  match carry.phase with
  | .releasing _ row => carry.rows ++ row.toList
  | _ => carry.rows

/-- `plan_replay_carry` up to its loop over the schemes. -/
def arrived (provider providerKind : String) (lane : ReplayScheme) (generation : Nat)
    (messages : List Message) : Carry :=
  { provider, providerKind, lane, generation, messages,
    phase :=
      if lane = .gray then .sending .unplanned
      else
        match nonportableSchemes messages lane with
        | [] => .sending .unplanned
        | schemes => .admitting schemes }

variable (learned : LearnedCapabilityRegistry) (inFlight : Finset ReplayLearnKey) (carry : Carry)

/-- One turn of that loop: all schemes are admitted, or the guards taken are dropped. -/
def admitNext (scheme : ReplayScheme) (rest : List ReplayScheme) (now : Nat) :
    Finset ReplayLearnKey × Carry :=
  match admitProvisional learned inFlight (carry.pair scheme) carry.generation now with
  | (claimed, .admitted guard) =>
    (claimed,
      { carry with
        guards := carry.guards ++ [guard],
        phase := if rest.isEmpty then .sending .held else .admitting rest })
  | (claimed, .acting) => (claimed, { carry with phase := .dropping .stripped })
  | (claimed, .carried) => (claimed, { carry with phase := .dropping .stripped })
  | (claimed, .stale) => (claimed, { carry with phase := .dropping .unchanged })

def stripped : Carry :=
  { carry with messages := (stripReplayArtifacts carry.lane carry.messages).1 }

def act : CarryAct → Option (LearnedCapabilityRegistry × Finset ReplayLearnKey × Carry)
  | .tryAdmit now =>
    match carry.phase with
    | .admitting (scheme :: rest) => some (learned, carry.admitNext learned inFlight scheme rest now)
    | _ => none
  | .release =>
    match carry.phase, carry.guards with
    | .dropping _, guard :: rest =>
      some (learned, inFlight.erase guard.key, { carry with guards := rest })
    | .releasing repaired row, guard :: rest =>
      some (learned, inFlight.erase guard.key,
        { carry with
          guards := rest, rows := carry.rows ++ row.toList, phase := .settling repaired })
    | _, _ => none
  | .finish =>
    match carry.phase, carry.guards with
    | .dropping .stripped, [] =>
      some (learned, inFlight, { carry.stripped with phase := .sending .unplanned })
    | .dropping .unchanged, [] =>
      some (learned, inFlight, { carry with phase := .sending .superseded })
    | .dropping .finished, [] => some (learned, inFlight, { carry with phase := .ended })
    | .settling _, [] => some (learned, inFlight, { carry with phase := .ended })
    | _, _ => none
  | .reject =>
    match carry.phase with
    | .sending .held =>
      some (learned, inFlight, { carry.stripped with phase := .sending .repaired })
    | _ => none
  | .succeed =>
    match carry.phase with
    | .sending .held => some (learned, inFlight, { carry with phase := .settling false })
    | .sending .repaired => some (learned, inFlight, { carry with phase := .settling true })
    | .sending _ => some (learned, inFlight, { carry with phase := .ended })
    | _ => none
  | .settle now =>
    match carry.phase, carry.guards with
    | .settling true, guard :: _ =>
      let (after, event) := guard.commit learned now
      some (after, inFlight, { carry with phase := .releasing true (event.map .learned) })
    | .settling false, guard :: _ =>
      let (after, event) := guard.clear learned
      some (after, inFlight, { carry with phase := .releasing false (event.map .cleared) })
    | _, _ => none
  | .abandon =>
    match carry.phase with
    | .sending _ => some (learned, inFlight, { carry with phase := .dropping .finished })
    | _ => none

end Carry

/-- What a request's own steps can do. -/
inductive Carry.Acted (learned : LearnedCapabilityRegistry) (inFlight : Finset ReplayLearnKey)
    (carry : Carry) :
    CarryAct → LearnedCapabilityRegistry × Finset ReplayLearnKey × Carry → Prop where
  | admitted (scheme : ReplayScheme) (rest : List ReplayScheme) (now : Nat)
      (guard : ReplayProbeGuard) (stood : carry.phase = .admitting (scheme :: rest))
      (free : guard.key ∉ inFlight) (own : guard.key = carry.pair scheme) :
      Acted learned inFlight carry (.tryAdmit now)
        (learned, insert guard.key inFlight,
          { carry with
            guards := carry.guards ++ [guard],
            phase := if rest.isEmpty then .sending .held else .admitting rest })
  | refused (scheme : ReplayScheme) (rest : List ReplayScheme) (now : Nat) (onward : Onward)
      (stood : carry.phase = .admitting (scheme :: rest)) (goes : onward ≠ .finished) :
      Acted learned inFlight carry (.tryAdmit now)
        (learned, inFlight, { carry with phase := .dropping onward })
  | dropped (onward : Onward) (guard : ReplayProbeGuard) (rest : List ReplayProbeGuard)
      (stood : carry.phase = .dropping onward) (held : carry.guards = guard :: rest) :
      Acted learned inFlight carry .release
        (learned, inFlight.erase guard.key, { carry with guards := rest })
  | released (repaired : Bool) (row : Option ReplayRow) (guard : ReplayProbeGuard)
      (rest : List ReplayProbeGuard) (stood : carry.phase = .releasing repaired row)
      (held : carry.guards = guard :: rest) :
      Acted learned inFlight carry .release
        (learned, inFlight.erase guard.key,
          { carry with
            guards := rest, rows := carry.rows ++ row.toList, phase := .settling repaired })
  | stripped (stood : carry.phase = .dropping .stripped) (empty : carry.guards = []) :
      Acted learned inFlight carry .finish
        (learned, inFlight, { carry.stripped with phase := .sending .unplanned })
  | unchanged (stood : carry.phase = .dropping .unchanged) (empty : carry.guards = []) :
      Acted learned inFlight carry .finish
        (learned, inFlight, { carry with phase := .sending .superseded })
  | concluded (stood : carry.phase = .dropping .finished ∨ ∃ repaired, carry.phase = .settling repaired)
      (empty : carry.guards = []) :
      Acted learned inFlight carry .finish (learned, inFlight, { carry with phase := .ended })
  | rejected (stood : carry.phase = .sending .held) :
      Acted learned inFlight carry .reject
        (learned, inFlight, { carry.stripped with phase := .sending .repaired })
  | succeeded (plan : CarryPlan) (repaired : Bool) (stood : carry.phase = .sending plan)
      (which : plan = if repaired then .repaired else .held) :
      Acted learned inFlight carry .succeed
        (learned, inFlight, { carry with phase := .settling repaired })
  | answered (plan : CarryPlan) (stood : carry.phase = .sending plan)
      (which : plan = .unplanned ∨ plan = .superseded) :
      Acted learned inFlight carry .succeed (learned, inFlight, { carry with phase := .ended })
  | committed (guard : ReplayProbeGuard) (rest : List ReplayProbeGuard) (now : Nat)
      (stood : carry.phase = .settling true) (held : carry.guards = guard :: rest) :
      Acted learned inFlight carry (.settle now)
        ((guard.commit learned now).1, inFlight,
          { carry with phase := .releasing true ((guard.commit learned now).2.map .learned) })
  | cleared (guard : ReplayProbeGuard) (rest : List ReplayProbeGuard) (now : Nat)
      (stood : carry.phase = .settling false) (held : carry.guards = guard :: rest) :
      Acted learned inFlight carry (.settle now)
        ((guard.clear learned).1, inFlight,
          { carry with phase := .releasing false ((guard.clear learned).2.map .cleared) })
  | abandoned (plan : CarryPlan) (stood : carry.phase = .sending plan) :
      Acted learned inFlight carry .abandon
        (learned, inFlight, { carry with phase := .dropping .finished })

section Acts
variable {learned : LearnedCapabilityRegistry} {inFlight : Finset ReplayLearnKey} {carry : Carry}
variable {action : CarryAct} {after : LearnedCapabilityRegistry × Finset ReplayLearnKey × Carry}

/-- An admission claims the pair, or changes nothing. -/
theorem admitProvisional_cases (learned : LearnedCapabilityRegistry)
    (inFlight : Finset ReplayLearnKey) (key : ReplayLearnKey) (generation now : Nat) :
    (∃ guard : ReplayProbeGuard, guard.key = key ∧ guard.key ∉ inFlight ∧
      admitProvisional learned inFlight key generation now =
        (insert guard.key inFlight, .admitted guard)) ∨
    (∃ admission, (∀ guard, admission ≠ .admitted guard) ∧
      admitProvisional learned inFlight key generation now = (inFlight, admission)) := by
  unfold admitProvisional
  by_cases taken : key ∈ inFlight
  · rw [if_pos taken]
    exact Or.inr ⟨_, (fun guard same => by cases same), rfl⟩
  · rw [if_neg taken]
    cases (learned.negativeStateInGeneration generation key.laneKey key.capabilityKey
        key.providerKind now).2 with
    | none => exact Or.inr ⟨_, (fun guard same => by cases same), rfl⟩
    | some state =>
      obtain ⟨state, granted⟩ := state
      cases state with
      | acting => exact Or.inr ⟨_, (fun guard same => by cases same), rfl⟩
      | absent => exact Or.inl ⟨⟨key, granted⟩, rfl, taken, rfl⟩
      | lapsed => exact Or.inl ⟨⟨key, granted⟩, rfl, taken, rfl⟩

theorem act_cases (acts : carry.act learned inFlight action = some after) :
    Carry.Acted learned inFlight carry action after := by
  cases action with
  | tryAdmit now =>
    simp only [Carry.act] at acts
    split at acts
    · rename_i scheme rest stood
      obtain rfl := Option.some.inj acts
      unfold Carry.admitNext
      obtain ⟨guard, own, free, admitted⟩ | ⟨admission, unadmitted, refused⟩ :=
        admitProvisional_cases learned inFlight (carry.pair scheme) carry.generation now
      · rw [admitted]
        exact .admitted scheme rest now guard stood free own
      · rw [refused]
        cases admission with
        | admitted guard => exact absurd rfl (unadmitted guard)
        | acting => exact .refused scheme rest now .stripped stood (by decide)
        | carried => exact .refused scheme rest now .stripped stood (by decide)
        | stale => exact .refused scheme rest now .unchanged stood (by decide)
    · cases acts
  | release =>
    simp only [Carry.act] at acts
    split at acts
    · rename_i onward guard rest stood held
      obtain rfl := Option.some.inj acts
      exact .dropped onward guard rest stood held
    · rename_i repaired row guard rest stood held
      obtain rfl := Option.some.inj acts
      exact .released repaired row guard rest stood held
    · cases acts
  | finish =>
    simp only [Carry.act] at acts
    split at acts
    · rename_i stood empty
      obtain rfl := Option.some.inj acts
      exact .stripped stood empty
    · rename_i stood empty
      obtain rfl := Option.some.inj acts
      exact .unchanged stood empty
    · rename_i stood empty
      obtain rfl := Option.some.inj acts
      exact .concluded (Or.inl stood) empty
    · rename_i repaired stood empty
      obtain rfl := Option.some.inj acts
      exact .concluded (Or.inr ⟨repaired, stood⟩) empty
    · cases acts
  | reject =>
    simp only [Carry.act] at acts
    split at acts
    · rename_i stood
      obtain rfl := Option.some.inj acts
      exact .rejected stood
    · cases acts
  | succeed =>
    simp only [Carry.act] at acts
    split at acts
    · rename_i stood
      obtain rfl := Option.some.inj acts
      exact .succeeded .held false stood rfl
    · rename_i stood
      obtain rfl := Option.some.inj acts
      exact .succeeded .repaired true stood rfl
    · rename_i plan unheld unrepaired stood
      obtain rfl := Option.some.inj acts
      refine .answered plan stood ?_
      cases plan with
      | unplanned => exact Or.inl rfl
      | superseded => exact Or.inr rfl
      | held => exact absurd rfl unheld
      | repaired => exact absurd rfl unrepaired
    · cases acts
  | settle now =>
    simp only [Carry.act] at acts
    split at acts
    · rename_i guard rest stood held
      obtain rfl := Option.some.inj acts
      exact .committed guard rest now stood held
    · rename_i guard rest stood held
      obtain rfl := Option.some.inj acts
      exact .cleared guard rest now stood held
    · cases acts
  | abandon =>
    simp only [Carry.act] at acts
    split at acts
    · rename_i plan stood
      obtain rfl := Option.some.inj acts
      exact .abandoned plan stood
    · cases acts

end Acts

end Routectl.Learn
