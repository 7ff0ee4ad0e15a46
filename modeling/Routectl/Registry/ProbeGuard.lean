import Routectl.Registry.Guarded

/-! Re-probe admissions and the guards that settle each of them once. -/
namespace Routectl.Registry
open Routectl.Core Library

/-- A re-probe the feature filter was granted. Its feature is already canonical,
so settling it reaches the very entry the read claimed. -/
structure ProbeAdmission where
  stateKey : String
  feature : String
  providerKind : String
  generation : Nat
  canonical : normalizeCapabilityKey feature providerKind = feature
deriving Repr, DecidableEq

/-- The admission the filter stages for a granted read. -/
def ProbeAdmission.granted (stateKey featureKeyRaw providerKind : String) (generation : Nat) :
    ProbeAdmission :=
  { stateKey, feature := normalizeCapabilityKey featureKeyRaw providerKind, providerKind, generation,
    canonical := normalizeCapabilityKey_idempotent featureKeyRaw providerKind }

def ProbeAdmission.key (admission : ProbeAdmission) : RegistryKey :=
  { stateKey := admission.stateKey, featureKey := admission.feature }

@[simp] theorem ProbeAdmission.makeKey_eq (admission : ProbeAdmission) :
    makeKey admission.stateKey admission.feature admission.providerKind = admission.key := by
  simp [makeKey, ProbeAdmission.key, admission.canonical]

@[simp] theorem ProbeAdmission.granted_key (stateKey featureKeyRaw providerKind : String)
    (generation : Nat) : (granted stateKey featureKeyRaw providerKind generation).key =
      makeKey stateKey featureKeyRaw providerKind := rfl

structure CapabilityClearedEvent where
  persistenceGeneration : Nat
  incarnation : Nat
  stateKey : String
  capabilityKey : String
  providerKind : String
deriving Repr, DecidableEq

inductive SameCapabilitySettlement where
  | applied
  | stale
  | noMatch
deriving Repr, DecidableEq

section Settlement
variable (hasher : RegistryKey → Nat → Nat)

/-- The one settlement call all guards make. -/
def settleAdmission (registry : LearnedCapabilityRegistry) (admission : ProbeAdmission)
    (outcome : ProbeOutcome) (now : Nat) : LearnedCapabilityRegistry × GenerationOutcome Unit :=
  registry.recordProbeOutcomeInGeneration admission.generation admission.stateKey admission.feature
    admission.providerKind hasher outcome now

theorem settleAdmission_step (registry : LearnedCapabilityRegistry) (admission : ProbeAdmission)
    (outcome : ProbeOutcome) (now : Nat) :
    GuardedStep registry admission.key
      (fun slot => settleSlot registry.tuning hasher admission.key slot outcome now) .mutate
      (settleAdmission hasher registry admission outcome now).1 := by
  simp only [settleAdmission, LearnedCapabilityRegistry.recordProbeOutcomeInGeneration,
    LearnedCapabilityRegistry.guardedFor, ProbeAdmission.makeKey_eq]
  exact LearnedCapabilityRegistry.guardedKeyed_step fun entries leased =>
    recordProbeOutcomeIn_spec leased hasher outcome now

/-- Nothing refuses this settlement: its generation is admitted, no purge holds
its key, and an incarnation is left to stamp it with. -/
def SettlementAccepted (registry : LearnedCapabilityRegistry) (admission : ProbeAdmission) : Prop :=
  registry.admits admission.generation admission.feature = true ∧
    admission.key ∉ registry.purgeLeases ∧ registry.nextIncarnation < u64Max

theorem settleAdmission_applied_iff (registry : LearnedCapabilityRegistry)
    (admission : ProbeAdmission) (outcome : ProbeOutcome) (now : Nat) :
    (∃ value incarnation granted, (settleAdmission hasher registry admission outcome now).2 =
        .applied value incarnation granted) ↔ SettlementAccepted registry admission := by
  simp only [settleAdmission, LearnedCapabilityRegistry.recordProbeOutcomeInGeneration,
    LearnedCapabilityRegistry.guardedFor, ProbeAdmission.makeKey_eq,
    LearnedCapabilityRegistry.guardedKeyed_applied_iff, SettlementAccepted, forall_const]

/-- An accepted settlement leaves no re-probe slot claimed on its key. -/
theorem settleAdmission_accepted {registry : LearnedCapabilityRegistry} {admission : ProbeAdmission}
    (accepted : SettlementAccepted registry admission) (outcome : ProbeOutcome) (now : Nat)
    {entry : LearnedEntry}
    (resident : (settleAdmission hasher registry admission outcome now).1.entries.lookup
      admission.key = some entry) : entry.inFlight = false := by
  obtain ⟨admitted, unleased, room⟩ := accepted
  simp only [settleAdmission, LearnedCapabilityRegistry.recordProbeOutcomeInGeneration,
    LearnedCapabilityRegistry.guardedFor, ProbeAdmission.makeKey_eq,
    LearnedCapabilityRegistry.guardedKeyed_mutate admitted unleased room,
    KeyedMap.lookup_modify_self,
    (recordProbeOutcomeIn_spec registry.purgeLeases hasher outcome now).1] at resident
  cases outcome with
  | success => simp [settleSlot] at resident
  | sameCapabilityRejection =>
    obtain ⟨prior, settled, rfl⟩ := Option.map_eq_some_iff.mp resident
    obtain ⟨before, -, rfl⟩ := Option.map_eq_some_iff.mp settled
    rfl
  | otherError =>
    obtain ⟨prior, settled, rfl⟩ := Option.map_eq_some_iff.mp resident
    obtain ⟨before, -, rfl⟩ := Option.map_eq_some_iff.mp settled
    rfl

/-- A refused settlement changes no entry; its admission is forgotten anyway. -/
theorem settleAdmission_refused {registry : LearnedCapabilityRegistry} {admission : ProbeAdmission}
    (refused : ¬ SettlementAccepted registry admission) (outcome : ProbeOutcome) (now : Nat) :
    (settleAdmission hasher registry admission outcome now).1.entries = registry.entries := by
  simp only [settleAdmission, LearnedCapabilityRegistry.recordProbeOutcomeInGeneration,
    LearnedCapabilityRegistry.guardedFor, ProbeAdmission.makeKey_eq]
  cases admitted : registry.admits admission.generation admission.feature with
  | false => rw [LearnedCapabilityRegistry.guardedKeyed_stale admitted]
  | true =>
    by_cases leased : admission.key ∈ registry.purgeLeases
    · rw [LearnedCapabilityRegistry.guardedKeyed_reserved admitted leased]
    · have full : u64Max ≤ registry.nextIncarnation :=
        Nat.not_lt.mp fun room => refused ⟨admitted, leased, room⟩
      rw [LearnedCapabilityRegistry.guardedKeyed_exhausted admitted leased full]

/-- Settle a list of admissions with one outcome, in order. -/
def settleAll (registry : LearnedCapabilityRegistry) (admissions : List ProbeAdmission)
    (outcome : ProbeOutcome) (now : Nat) : LearnedCapabilityRegistry :=
  admissions.foldl
    (fun current admission => (settleAdmission hasher current admission outcome now).1) registry

/-- The settler of one target's admissions; `armed` while it holds the registry. -/
structure LearnedProbeGuard where
  armed : Bool
  probes : List ProbeAdmission

namespace LearnedProbeGuard

def new (probes : List ProbeAdmission) : LearnedProbeGuard := { armed := true, probes }

def inert : LearnedProbeGuard := { armed := false, probes := [] }

private def clearEach (registry : LearnedCapabilityRegistry) (now : Nat) :
    List ProbeAdmission → LearnedCapabilityRegistry × List CapabilityClearedEvent
  | [] => (registry, [])
  | probe :: rest =>
    let (settled, outcome) := settleAdmission hasher registry probe .success now
    let (final, cleared) := clearEach settled now rest
    match outcome with
    | .applied _ incarnation generation =>
      (final,
       { persistenceGeneration := generation, incarnation, stateKey := probe.stateKey,
         capabilityKey := probe.feature, providerKind := probe.providerKind } :: cleared)
    | .stale | .reserved | .exhausted => (final, cleared)

/-- A 2xx dispatch clears every held entry and disarms. A refused settlement
emits nothing and its admission is forgotten all the same. -/
def settleSuccess (registry : LearnedCapabilityRegistry) (guard : LearnedProbeGuard) (now : Nat) :
    LearnedCapabilityRegistry × LearnedProbeGuard × List CapabilityClearedEvent :=
  if guard.armed then
    let (settled, cleared) := clearEach hasher registry now guard.probes
    (settled, { armed := false, probes := [] }, cleared)
  else (registry, guard, [])

def settleSameCapability (registry : LearnedCapabilityRegistry) (guard : LearnedProbeGuard)
    (stateKey feature providerKind : String) (now : Nat) :
    LearnedCapabilityRegistry × LearnedProbeGuard × SameCapabilitySettlement :=
  if !guard.armed then (registry, guard, .noMatch)
  else
    match guard.probes.findIdx? fun probe =>
        probe.stateKey = stateKey && probe.feature = feature && probe.providerKind = providerKind with
    | none => (registry, guard, .noMatch)
    | some position =>
      match guard.probes[position]? with
      | none => (registry, guard, .noMatch)
      | some probe =>
        let remaining := guard.probes.eraseIdx position
        let (settled, outcome) :=
          settleAdmission hasher registry probe .sameCapabilityRejection now
        (settled, { armed := !remaining.isEmpty, probes := remaining },
         match outcome with
         | .stale => .stale
         | .applied .. | .reserved | .exhausted => .applied)

/-- The admission a same-capability rejection settles, if the guard holds one. -/
def matching (guard : LearnedProbeGuard) (stateKey feature providerKind : String) :
    Option ProbeAdmission :=
  if guard.armed then
    guard.probes.find? fun probe =>
      probe.stateKey = stateKey && probe.feature = feature && probe.providerKind = providerKind
  else none

private theorem findIdx?_of_find? {probes : List ProbeAdmission} {probe : ProbeAdmission}
    {wanted : ProbeAdmission → Bool} (found : probes.find? wanted = some probe) :
    ∃ position, probes.findIdx? wanted = some position ∧ probes[position]? = some probe := by
  obtain ⟨holds, position, bound, same, earlier⟩ := List.find?_eq_some_iff_getElem.mp found
  refine ⟨position, List.findIdx?_eq_some_iff_getElem.mpr ⟨bound, same ▸ holds, ?_⟩, ?_⟩
  · intro other before
    simpa using earlier other before
  · rw [List.getElem?_eq_getElem bound, same]

theorem settleSameCapability_none {guard : LearnedProbeGuard} {stateKey feature providerKind : String}
    (unmatched : guard.matching stateKey feature providerKind = none)
    (registry : LearnedCapabilityRegistry) (now : Nat) :
    guard.settleSameCapability hasher registry stateKey feature providerKind now =
      (registry, guard, .noMatch) := by
  unfold settleSameCapability
  cases armed : guard.armed with
  | false => rfl
  | true =>
    rw [matching, if_pos armed] at unmatched
    rw [List.findIdx?_eq_none_iff.mpr fun probe member =>
      Bool.eq_false_iff.mpr (List.find?_eq_none.mp unmatched probe member)]
    rfl

theorem settleSameCapability_some {guard : LearnedProbeGuard} {stateKey feature providerKind : String}
    {probe : ProbeAdmission} (matched : guard.matching stateKey feature providerKind = some probe)
    (registry : LearnedCapabilityRegistry) (now : Nat) :
    (guard.settleSameCapability hasher registry stateKey feature providerKind now).1 =
        (settleAdmission hasher registry probe .sameCapabilityRejection now).1 ∧
      (guard.settleSameCapability hasher registry stateKey feature providerKind now).2.2 ≠
        .noMatch := by
  unfold matching at matched
  split at matched
  · rename_i armed
    obtain ⟨position, located, present⟩ := findIdx?_of_find? matched
    unfold settleSameCapability
    rw [armed, located]
    simp only [Bool.not_true, Bool.false_eq_true, if_false, present]
    refine ⟨trivial, ?_⟩
    split <;> simp
  · cases matched

/-- Only a stale settlement is passed on as a refusal. -/
theorem settleSameCapability_stale_iff {guard : LearnedProbeGuard}
    {stateKey feature providerKind : String} {probe : ProbeAdmission}
    (matched : guard.matching stateKey feature providerKind = some probe)
    (registry : LearnedCapabilityRegistry) (now : Nat) :
    (guard.settleSameCapability hasher registry stateKey feature providerKind now).2.2 = .stale ↔
      (settleAdmission hasher registry probe .sameCapabilityRejection now).2 = .stale := by
  unfold matching at matched
  split at matched
  · rename_i armed
    obtain ⟨position, located, present⟩ := findIdx?_of_find? matched
    simp only [settleSameCapability, armed, located, present, Bool.not_true, Bool.false_eq_true,
      if_false]
    cases (settleAdmission hasher registry probe .sameCapabilityRejection now).2 <;> simp
  · cases matched

/-- Dropping the guard records a transient error for every admission left. -/
def drop (registry : LearnedCapabilityRegistry) (guard : LearnedProbeGuard) (now : Nat) :
    LearnedCapabilityRegistry :=
  if guard.armed then settleAll hasher registry guard.probes .otherError now else registry

private theorem clearEach_registry (registry : LearnedCapabilityRegistry) (now : Nat)
    (probes : List ProbeAdmission) :
    (clearEach hasher registry now probes).1 = settleAll hasher registry probes .success now := by
  induction probes generalizing registry with
  | nil => rfl
  | cons probe rest ih =>
    simp only [clearEach, settleAll, List.foldl_cons]
    have onward := ih (settleAdmission hasher registry probe .success now).1
    simp only [settleAll] at onward
    split <;> exact onward

theorem settleSuccess_registry (registry : LearnedCapabilityRegistry) (guard : LearnedProbeGuard)
    (now : Nat) (armed : guard.armed = true) :
    (guard.settleSuccess hasher registry now).1 =
      settleAll hasher registry guard.probes .success now := by
  simp only [settleSuccess, if_pos armed]
  exact clearEach_registry hasher registry now guard.probes

/-- The event an accepted success emits. -/
def clearedEvent (admission : ProbeAdmission) :
    GenerationOutcome Unit → Option CapabilityClearedEvent
  | .applied _ incarnation persistenceGeneration =>
    some { persistenceGeneration, incarnation, stateKey := admission.stateKey,
           capabilityKey := admission.feature, providerKind := admission.providerKind }
  | .stale | .reserved | .exhausted => none

/-- Settling one re-probe as a success is one settlement and its event. -/
theorem settleSuccess_one (registry : LearnedCapabilityRegistry) (admission : ProbeAdmission)
    (now : Nat) :
    ((new [admission]).settleSuccess hasher registry now).1 =
        (settleAdmission hasher registry admission .success now).1 ∧
      ((new [admission]).settleSuccess hasher registry now).2.2 =
        (clearedEvent admission
          (settleAdmission hasher registry admission .success now).2).toList := by
  constructor
  · rw [settleSuccess_registry hasher registry _ now rfl]
    rfl
  · simp only [settleSuccess, new, if_true, clearEach]
    cases (settleAdmission hasher registry admission .success now).2 <;> rfl

end LearnedProbeGuard

/-- A request's admissions, grouped by the target that must settle them. -/
structure ProbeAdmissionSet where
  pending : KeyedMap String (List ProbeAdmission)

namespace ProbeAdmissionSet

def new (admissions : List ProbeAdmission) : ProbeAdmissionSet :=
  { pending := admissions.foldl
      (fun pending admission =>
        pending.insert admission.stateKey
          (((pending.lookup admission.stateKey).getD []) ++ [admission]))
      ∅ }

def take (set : ProbeAdmissionSet) (stateKey : String) :
    ProbeAdmissionSet × Option (List ProbeAdmission) :=
  ({ pending := set.pending.erase stateKey }, set.pending.lookup stateKey)

/-- Admissions no target reached are settled as transient errors. -/
def drop (registry : LearnedCapabilityRegistry) (set : ProbeAdmissionSet) (now : Nat) :
    LearnedCapabilityRegistry :=
  set.pending.entries.foldl
    (fun current group => settleAll hasher current group.2 .otherError now) registry

/-- The admissions the set still owns, target by target. -/
def owned (set : ProbeAdmissionSet) : List ProbeAdmission :=
  set.pending.entries.flatMap fun group => group.2

theorem drop_eq_settleAll (registry : LearnedCapabilityRegistry) (set : ProbeAdmissionSet)
    (now : Nat) : set.drop hasher registry now = settleAll hasher registry set.owned .otherError now := by
  simp only [drop, owned, settleAll, List.foldl_flatMap]

end ProbeAdmissionSet
end Settlement
end Routectl.Registry
