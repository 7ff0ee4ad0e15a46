import Routectl.Core.Capability
import Routectl.Library.KeyedMap

/-! The operator override registry: every source of overrides flattened into one cell a target
and capability, and the verdict a concrete target resolves to. -/
namespace Routectl.Overrides
open Library
open Routectl.Core (normalizeCapabilityKey normalizeCapabilityKey_other)

structure ProviderEntry where
  kind : String
  unsupportedFeatures : List String := []
deriving Repr, DecidableEq

structure ModelEntry where
  provider : String
  unsupportedFeatures : List String := []
deriving Repr, DecidableEq

structure OverrideEntry where
  unsupported : List String := []
  forceSupported : List String := []
deriving Repr, DecidableEq

/-- The tables the registry is built from, in the order they are iterated. -/
structure Config where
  providers : List (String × ProviderEntry) := []
  models : List (String × ModelEntry) := []
  overrides : List (String × OverrideEntry) := []
deriving Repr, DecidableEq

inductive OverrideVerdict where
  | routeAway
  | forceSupported
deriving Repr, DecidableEq

inductive OverrideProvenance where
  | providerStatic
  | modelStatic
  | override
deriving Repr, DecidableEq

structure CellKey where
  targetSpec : String
  capabilityKey : String
deriving Repr, DecidableEq

structure Cell where
  verdict : OverrideVerdict
  provenance : OverrideProvenance
deriving Repr, DecidableEq

structure Contribution where
  key : CellKey
  verdict : OverrideVerdict
  provenance : OverrideProvenance
  source : String
deriving Repr, DecidableEq

/-- A spec split at its first colon. -/
def splitTargetSpec (spec : String) : String × Option String :=
  let provider := spec.toList.takeWhile (· != ':')
  match spec.toList.dropWhile (· != ':') with
  | [] => (spec, none)
  | _ :: nickname => (String.ofList provider, some (String.ofList nickname))

def providerOfSpec (spec : String) : String := (splitTargetSpec spec).1

def modelSpec (providerName nickname : String) : String := providerName ++ ":" ++ nickname

theorem providerOfSpec_modelSpec {providerName : String} (plain : ':' ∉ providerName.toList)
    (nickname : String) : providerOfSpec (modelSpec providerName nickname) = providerName := by
  have before : ∀ character ∈ providerName.toList, (character != ':') = true := by
    intro character member
    exact bne_iff_ne.mpr (fun same => plain (same ▸ member))
  have spelled : (modelSpec providerName nickname).toList =
      providerName.toList ++ ':' :: nickname.toList := by
    simp [modelSpec, String.toList_append]
  have dropped : (providerName.toList ++ ':' :: nickname.toList).dropWhile (· != ':') =
      ':' :: nickname.toList := by
    rw [List.dropWhile_append_of_pos before]
    simp
  have taken : (providerName.toList ++ ':' :: nickname.toList).takeWhile (· != ':') =
      providerName.toList := by
    rw [List.takeWhile_append_of_pos before]
    simp
  simp [providerOfSpec, splitTargetSpec, spelled, dropped, taken]

theorem providerOfSpec_plain {providerName : String} (plain : ':' ∉ providerName.toList) :
    providerOfSpec providerName = providerName := by
  have before : ∀ character ∈ providerName.toList, (character != ':') = true := by
    intro character member
    exact bne_iff_ne.mpr (fun same => plain (same ▸ member))
  have dropped : providerName.toList.dropWhile (· != ':') = [] := by
    have none := @List.dropWhile_append_of_pos _ _ _ [] before
    rwa [List.append_nil, List.dropWhile_nil] at none
  simp only [providerOfSpec, splitTargetSpec, dropped]

namespace Config

def providerKindFor (config : Config) (providerName : String) : String :=
  match config.providers.lookup providerName with
  | some entry => entry.kind
  | none => ""

def providerContributions (entry : String × ProviderEntry) : List Contribution :=
  entry.2.unsupportedFeatures.map fun raw =>
    { key := ⟨entry.1, normalizeCapabilityKey raw entry.2.kind⟩
      verdict := .routeAway
      provenance := .providerStatic
      source := "[providers." ++ entry.1 ++ "].unsupported_features" }

def modelContributions (config : Config) (entry : String × ModelEntry) : List Contribution :=
  entry.2.unsupportedFeatures.map fun raw =>
    { key := ⟨modelSpec entry.2.provider entry.1,
        normalizeCapabilityKey raw (config.providerKindFor entry.2.provider)⟩
      verdict := .routeAway
      provenance := .modelStatic
      source := "[models." ++ entry.1 ++ "].unsupported_features" }

def overrideContributions (config : Config) (entry : String × OverrideEntry) :
    List Contribution :=
  let kind := config.providerKindFor (providerOfSpec entry.1)
  (entry.2.unsupported.map fun raw =>
    { key := ⟨entry.1, normalizeCapabilityKey raw kind⟩
      verdict := .routeAway
      provenance := .override
      source := "[capability.overrides." ++ entry.1 ++ "].unsupported" }) ++
  entry.2.forceSupported.map fun raw =>
    { key := ⟨entry.1, normalizeCapabilityKey raw kind⟩
      verdict := .forceSupported
      provenance := .override
      source := "[capability.overrides." ++ entry.1 ++ "].force_supported" }

def collectContributions (config : Config) : List Contribution :=
  config.providers.flatMap providerContributions ++
    config.models.flatMap config.modelContributions ++
    config.overrides.flatMap config.overrideContributions

end Config

def mergeCell (existing incoming : Cell) : Cell :=
  if existing.verdict = incoming.verdict then
    { verdict := existing.verdict
      provenance :=
        if existing.provenance = .override then incoming.provenance else existing.provenance }
  else
    { verdict := .routeAway
      provenance :=
        if existing.verdict = .routeAway then existing.provenance else incoming.provenance }

structure OverrideRegistry where
  cells : KeyedMap CellKey Cell := ∅

namespace OverrideRegistry

def addContribution (cells : KeyedMap CellKey Cell) (contribution : Contribution) :
    KeyedMap CellKey Cell :=
  let incoming : Cell := ⟨contribution.verdict, contribution.provenance⟩
  match cells.lookup contribution.key with
  | none => cells.insert contribution.key incoming
  | some existing => cells.insert contribution.key (mergeCell existing incoming)

def build (config : Config) : OverrideRegistry :=
  { cells := config.collectContributions.foldl addContribution ∅ }

def resolve (registry : OverrideRegistry)
    (providerName nickname capabilityRaw providerKind : String) :
    Option (OverrideVerdict × OverrideProvenance) :=
  let capabilityKey := normalizeCapabilityKey capabilityRaw providerKind
  match registry.cells.lookup ⟨modelSpec providerName nickname, capabilityKey⟩ with
  | some cell => some (cell.verdict, cell.provenance)
  | none =>
    (registry.cells.lookup ⟨providerName, capabilityKey⟩).map fun cell =>
      (cell.verdict, cell.provenance)

/-- The verdict a cell holds. -/
def held (cells : KeyedMap CellKey Cell) (key : CellKey) : Option OverrideVerdict :=
  (cells.lookup key).map Cell.verdict

/-- The verdict that stands, whatever its provenance. -/
def verdict (registry : OverrideRegistry)
    (providerName nickname capabilityRaw providerKind : String) : Option OverrideVerdict :=
  (registry.resolve providerName nickname capabilityRaw providerKind).map Prod.fst

theorem verdict_eq (registry : OverrideRegistry)
    (providerName nickname capabilityRaw providerKind : String) :
    registry.verdict providerName nickname capabilityRaw providerKind =
      let capabilityKey := normalizeCapabilityKey capabilityRaw providerKind
      (held registry.cells ⟨modelSpec providerName nickname, capabilityKey⟩).or
        (held registry.cells ⟨providerName, capabilityKey⟩) := by
  unfold verdict resolve held
  dsimp only
  cases registry.cells.lookup
      ⟨modelSpec providerName nickname, normalizeCapabilityKey capabilityRaw providerKind⟩ with
  | some cell => rfl
  | none =>
    rw [Option.map_none, Option.none_or, Option.map_map]
    rfl

theorem mergeCell_verdict (existing incoming : Cell) :
    (mergeCell existing incoming).verdict =
      if existing.verdict = .routeAway then .routeAway else incoming.verdict := by
  unfold mergeCell
  cases existing.verdict <;> cases incoming.verdict <;> rfl

theorem held_addContribution (cells : KeyedMap CellKey Cell) (contribution : Contribution)
    (key : CellKey) :
    held (addContribution cells contribution) key =
      if key = contribution.key then
        some (if held cells key = some .routeAway then .routeAway else contribution.verdict)
      else held cells key := by
  unfold held addContribution
  by_cases same : key = contribution.key
  · subst same
    cases cells.lookup contribution.key with
    | none => simp
    | some existing => simp [mergeCell_verdict]
  · cases cells.lookup contribution.key with
    | none => simp [same, AList.lookup_insert_ne same]
    | some existing => simp [same, AList.lookup_insert_ne same]

theorem held_foldl_routeAway_iff (contributions : List Contribution)
    (cells : KeyedMap CellKey Cell) (key : CellKey) :
    held (contributions.foldl addContribution cells) key = some .routeAway ↔
      held cells key = some .routeAway ∨
        ∃ contribution ∈ contributions, contribution.key = key ∧
          contribution.verdict = .routeAway := by
  induction contributions generalizing cells with
  | nil => simp
  | cons contribution rest ih =>
    have here : held (addContribution cells contribution) key = some .routeAway ↔
        held cells key = some .routeAway ∨
          (contribution.key = key ∧ contribution.verdict = .routeAway) := by
      rw [held_addContribution]
      by_cases same : key = contribution.key
      · by_cases before : held cells key = some .routeAway
        · simp [same, same ▸ before]
        · simp [same, same ▸ before]
      · simp [same, Ne.symm same]
    rw [List.foldl_cons, ih, here]
    simp only [List.mem_cons, exists_eq_or_imp, or_assoc]

theorem held_foldl_eq_none_iff (contributions : List Contribution)
    (cells : KeyedMap CellKey Cell) (key : CellKey) :
    held (contributions.foldl addContribution cells) key = none ↔
      held cells key = none ∧ ∀ contribution ∈ contributions, contribution.key ≠ key := by
  induction contributions generalizing cells with
  | nil => simp
  | cons contribution rest ih =>
    rw [List.foldl_cons, ih, held_addContribution]
    by_cases same : key = contribution.key
    · simp [same]
    · simp [same, Ne.symm same]

end OverrideRegistry

namespace Config

def RoutesAway (config : Config) (key : CellKey) : Prop :=
  ∃ contribution ∈ config.collectContributions, contribution.key = key ∧
    contribution.verdict = .routeAway

def Forces (config : Config) (key : CellKey) : Prop :=
  ∃ contribution ∈ config.collectContributions, contribution.key = key ∧
    contribution.verdict = .forceSupported

theorem held_routeAway_iff (config : Config) (key : CellKey) :
    OverrideRegistry.held (OverrideRegistry.build config).cells key = some .routeAway ↔
      config.RoutesAway key := by
  have folded := OverrideRegistry.held_foldl_routeAway_iff config.collectContributions ∅ key
  simpa [OverrideRegistry.held, OverrideRegistry.build, RoutesAway] using folded

theorem held_eq_none_iff (config : Config) (key : CellKey) :
    OverrideRegistry.held (OverrideRegistry.build config).cells key = none ↔
      ¬ config.RoutesAway key ∧ ¬ config.Forces key := by
  have folded := OverrideRegistry.held_foldl_eq_none_iff config.collectContributions ∅ key
  have empty : OverrideRegistry.held (∅ : KeyedMap CellKey Cell) key = none := by
    simp [OverrideRegistry.held]
  unfold OverrideRegistry.build
  rw [folded]
  constructor
  · rintro ⟨_, none⟩
    constructor
    · rintro ⟨contribution, member, same, _⟩
      exact none contribution member same
    · rintro ⟨contribution, member, same, _⟩
      exact none contribution member same
  · rintro ⟨noAway, noForce⟩
    refine ⟨empty, ?_⟩
    intro contribution member same
    cases verdict : contribution.verdict with
    | routeAway => exact noAway ⟨contribution, member, same, verdict⟩
    | forceSupported => exact noForce ⟨contribution, member, same, verdict⟩

theorem held_congr {before after : Config} {key : CellKey}
    (away : after.RoutesAway key ↔ before.RoutesAway key)
    (forced : after.Forces key ↔ before.Forces key) :
    OverrideRegistry.held (OverrideRegistry.build after).cells key =
      OverrideRegistry.held (OverrideRegistry.build before).cells key := by
  have sameAway := (after.held_routeAway_iff key).trans
    (away.trans (before.held_routeAway_iff key).symm)
  have sameNone := (after.held_eq_none_iff key).trans
    ((and_congr (not_congr away) (not_congr forced)).trans (before.held_eq_none_iff key).symm)
  cases afterHeld : OverrideRegistry.held (OverrideRegistry.build after).cells key with
  | none => exact (sameNone.mp afterHeld).symm
  | some verdict =>
    cases beforeHeld : OverrideRegistry.held (OverrideRegistry.build before).cells key with
    | none => simp [sameNone.mpr beforeHeld] at afterHeld
    | some other =>
      rw [afterHeld, beforeHeld] at sameAway
      cases verdict <;> cases other <;> simp_all

/-- A token of a legacy list, with the spec it is filed under and the kind of the provider the
list belongs to. -/
def LegacyToken (config : Config) (spec kind raw : String) : Prop :=
  (∃ entry, (spec, entry) ∈ config.providers ∧ kind = entry.kind ∧
    raw ∈ entry.unsupportedFeatures) ∨
  ∃ nickname entry, (nickname, entry) ∈ config.models ∧ spec = modelSpec entry.provider nickname ∧
    kind = config.providerKindFor entry.provider ∧ raw ∈ entry.unsupportedFeatures

def UnsupportedToken (config : Config) (spec raw : String) : Prop :=
  ∃ entry, (spec, entry) ∈ config.overrides ∧ raw ∈ entry.unsupported

def ForcedToken (config : Config) (spec raw : String) : Prop :=
  ∃ entry, (spec, entry) ∈ config.overrides ∧ raw ∈ entry.forceSupported

/-- The kind an override spec's keys are normalized for. -/
def specKind (config : Config) (spec : String) : String :=
  config.providerKindFor (providerOfSpec spec)

theorem routesAway_iff (config : Config) (spec key : String) :
    config.RoutesAway ⟨spec, key⟩ ↔
      (∃ kind raw, config.LegacyToken spec kind raw ∧ normalizeCapabilityKey raw kind = key) ∨
      ∃ raw, config.UnsupportedToken spec raw ∧
        normalizeCapabilityKey raw (config.specKind spec) = key := by
  unfold RoutesAway collectContributions
  simp only [List.mem_append, List.mem_flatMap, providerContributions, modelContributions,
    overrideContributions, List.mem_map]
  constructor
  · rintro ⟨_, ((⟨⟨name, entry⟩, member, raw, listed, rfl⟩ |
      ⟨⟨nickname, entry⟩, member, raw, listed, rfl⟩) |
      ⟨⟨name, entry⟩, member, ⟨raw, listed, rfl⟩ | ⟨raw, listed, rfl⟩⟩), same, away⟩
    · cases same
      exact .inl ⟨_, raw, .inl ⟨entry, member, rfl, listed⟩, rfl⟩
    · cases same
      exact .inl ⟨_, raw, .inr ⟨nickname, entry, member, rfl, rfl, listed⟩, rfl⟩
    · cases same
      exact .inr ⟨raw, ⟨entry, member, listed⟩, rfl⟩
    · cases away
  · rintro (⟨_, raw, ⟨entry, member, rfl, listed⟩ |
      ⟨nickname, entry, member, rfl, rfl, listed⟩, rfl⟩ | ⟨raw, ⟨entry, member, listed⟩, rfl⟩)
    · exact ⟨_, .inl (.inl ⟨(spec, entry), member, raw, listed, rfl⟩), rfl, rfl⟩
    · exact ⟨_, .inl (.inr ⟨(nickname, entry), member, raw, listed, rfl⟩), rfl, rfl⟩
    · exact ⟨_, .inr ⟨(spec, entry), member, .inl ⟨raw, listed, rfl⟩⟩, rfl, rfl⟩

theorem forces_iff (config : Config) (spec key : String) :
    config.Forces ⟨spec, key⟩ ↔ ∃ raw, config.ForcedToken spec raw ∧
      normalizeCapabilityKey raw (config.specKind spec) = key := by
  unfold Forces collectContributions
  simp only [List.mem_append, List.mem_flatMap, providerContributions, modelContributions,
    overrideContributions, List.mem_map]
  constructor
  · rintro ⟨_, ((⟨⟨name, entry⟩, member, raw, listed, rfl⟩ |
      ⟨⟨nickname, entry⟩, member, raw, listed, rfl⟩) |
      ⟨⟨name, entry⟩, member, ⟨raw, listed, rfl⟩ | ⟨raw, listed, rfl⟩⟩), same, forced⟩
    · cases forced
    · cases forced
    · cases forced
    · cases same
      exact ⟨raw, ⟨entry, member, listed⟩, rfl⟩
  · rintro ⟨raw, ⟨entry, member, listed⟩, rfl⟩
    exact ⟨_, .inr ⟨(spec, entry), member, .inr ⟨raw, listed, rfl⟩⟩, rfl, rfl⟩

/-- Some nickname names a model cell that none of the specs spells. -/
theorem fresh_nickname (specs : List String) (providerName : String) :
    ∃ nickname, modelSpec providerName nickname ∉ specs := by
  have bounded : ∃ bound, ∀ spec ∈ specs, spec.length ≤ bound := by
    induction specs with
    | nil => exact ⟨0, by simp⟩
    | cons spec rest ih =>
      obtain ⟨bound, within⟩ := ih
      refine ⟨max spec.length bound, ?_⟩
      intro other member
      obtain rfl | member := List.mem_cons.mp member
      · exact Nat.le_max_left _ _
      · exact Nat.le_trans (within other member) (Nat.le_max_right _ _)
  obtain ⟨bound, within⟩ := bounded
  refine ⟨String.ofList (List.replicate (bound + 1) 'x'), ?_⟩
  intro member
  have short := within _ member
  simp only [modelSpec, String.length_append, String.length_ofList, List.length_replicate] at short
  omega

/-- With the same forced cells, two registries resolve alike exactly when they route the same
cells away. -/
theorem verdicts_agree_iff {before after : Config}
    (forced : ∀ key, after.Forces key ↔ before.Forces key) :
    (∀ providerName nickname capabilityRaw providerKind,
      (OverrideRegistry.build after).verdict providerName nickname capabilityRaw providerKind =
        (OverrideRegistry.build before).verdict providerName nickname capabilityRaw
          providerKind) ↔
      ∀ key, after.RoutesAway key ↔ before.RoutesAway key := by
  constructor
  · intro agree key
    obtain ⟨nickname, fresh⟩ := fresh_nickname
      ((before.collectContributions ++ after.collectContributions).map fun contribution =>
        contribution.key.targetSpec) key.targetSpec
    have absent : ∀ config : Config, config = before ∨ config = after →
        OverrideRegistry.held (OverrideRegistry.build config).cells
          ⟨modelSpec key.targetSpec nickname, key.capabilityKey⟩ = none := by
      intro config either
      have missing : ∀ contribution ∈ config.collectContributions,
          contribution.key.targetSpec ≠ modelSpec key.targetSpec nickname := by
        intro contribution member same
        apply fresh
        apply List.mem_map.mpr
        refine ⟨contribution, ?_, same⟩
        obtain rfl | rfl := either
        · exact List.mem_append_left _ member
        · exact List.mem_append_right _ member
      apply (config.held_eq_none_iff _).mpr
      constructor
      · rintro ⟨contribution, member, same, _⟩
        exact missing contribution member (by rw [same])
      · rintro ⟨contribution, member, same, _⟩
        exact missing contribution member (by rw [same])
    have here := agree key.targetSpec nickname key.capabilityKey ""
    rw [OverrideRegistry.verdict_eq, OverrideRegistry.verdict_eq] at here
    simp only [normalizeCapabilityKey_other (show ("" : String) ≠ "bedrock" by simp),
      absent after (.inr rfl), absent before (.inl rfl), Option.none_or] at here
    rw [← after.held_routeAway_iff key, ← before.held_routeAway_iff key, here]
  · intro away providerName nickname capabilityRaw providerKind
    rw [OverrideRegistry.verdict_eq, OverrideRegistry.verdict_eq]
    simp only [held_congr (away _) (forced _)]

end Config
end Routectl.Overrides
