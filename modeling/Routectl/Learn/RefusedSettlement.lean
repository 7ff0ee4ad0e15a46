import Routectl.Learn.Commit

/-! What a refused re-probe settlement reports. The registry refuses in three
ways; the guard passes on one of them. -/
namespace Routectl.Learn
open Routectl.Core Registry

variable (hasher : RegistryKey → Nat → Nat)

/-- The probe failures one commit counts. -/
def probeFailuresCounted (registry : LearnedCapabilityRegistry) (rejection : Rejection)
    (guard : LearnedProbeGuard) (now : Nat) : Nat :=
  if rejection.featureKey = operatorRemapCapability then 0
  else if !rejection.requestFeatures.contains rejection.featureKey then 0
  else if rejection.masked then 0
  else
    match (guard.settleSameCapability hasher registry rejection.stateKey rejection.featureKey
        rejection.providerKind now).2.2 with
    | .applied => 1
    | .stale | .noMatch => 0

/-- This call refreshed the resident entry: one more failed probe, seen now, and
backed off from now, under the incarnation the call took. -/
def RecordsRejection (key : RegistryKey) (now : Nat) (before after : LearnedCapabilityRegistry) :
    Prop :=
  ∃ entry, before.entries.lookup key = some entry ∧
    after.nextIncarnation = before.nextIncarnation + 1 ∧
    after.entries.lookup key =
      some (restamp after.nextIncarnation (refusedProbe before.tuning hasher key now entry))

/-- The registry turned this settlement away. -/
def SettlementRefused (registry : LearnedCapabilityRegistry) (admission : ProbeAdmission)
    (now : Nat) : Prop :=
  (settleAdmission hasher registry admission .sameCapabilityRejection now).2 = .stale ∨
  (settleAdmission hasher registry admission .sameCapabilityRejection now).2 = .reserved ∨
  (settleAdmission hasher registry admission .sameCapabilityRejection now).2 = .exhausted

/-- The guard says applied only of a recorded rejection, and a commit that has
its settlement refused counts no probe failure and remembers no key. -/
def ReportsHonestly (registry : LearnedCapabilityRegistry) (generation : Nat)
    (rejection : Rejection) (dedupe : LearnDedupe) (guard : LearnedProbeGuard)
    (admission : ProbeAdmission) (now : Nat) : Prop :=
  ((guard.settleSameCapability hasher registry rejection.stateKey rejection.featureKey
      rejection.providerKind now).2.2 = .applied →
    RecordsRejection hasher admission.key now registry
      (guard.settleSameCapability hasher registry rejection.stateKey rejection.featureKey
        rejection.providerKind now).1) ∧
  (disposition rejection dedupe guard = .settles admission →
    SettlementRefused hasher registry admission now →
    probeFailuresCounted hasher registry rejection guard now = 0 ∧
      (commitLearnedObservation hasher registry generation rejection dedupe guard now).2.1 =
        dedupe)

/-- Stale admissions apart, no purge holds the key, an incarnation is left, and
an entry is resident. -/
def SettlesResident (registry : LearnedCapabilityRegistry) (admission : ProbeAdmission) : Prop :=
  registry.admits admission.generation admission.feature = true →
    admission.key ∉ registry.purgeLeases ∧ registry.nextIncarnation < u64Max ∧
      (registry.entries.lookup admission.key).isSome = true

section Settling
variable {hasher} {registry : LearnedCapabilityRegistry} {admission : ProbeAdmission} {now : Nat}

theorem settleAdmission_stale_iff :
    (settleAdmission hasher registry admission .sameCapabilityRejection now).2 = .stale ↔
      registry.admits admission.generation admission.feature = false := by
  simp only [settleAdmission, LearnedCapabilityRegistry.recordProbeOutcomeInGeneration,
    LearnedCapabilityRegistry.guardedFor, ProbeAdmission.makeKey_eq]
  cases admitted : registry.admits admission.generation admission.feature with
  | false => simp [LearnedCapabilityRegistry.guardedKeyed_stale admitted]
  | true =>
    by_cases leased : admission.key ∈ registry.purgeLeases
    · simp [LearnedCapabilityRegistry.guardedKeyed_reserved admitted leased]
    · by_cases room : registry.nextIncarnation < u64Max
      · simp [LearnedCapabilityRegistry.guardedKeyed_mutate admitted leased room]
      · simp [LearnedCapabilityRegistry.guardedKeyed_exhausted admitted leased
          (Nat.le_of_not_lt room)]

/-- A refused settlement takes no incarnation. -/
theorem settleAdmission_counter_kept (refused : ¬ SettlementAccepted registry admission) :
    (settleAdmission hasher registry admission .sameCapabilityRejection now).1.nextIncarnation =
      registry.nextIncarnation := by
  simp only [settleAdmission, LearnedCapabilityRegistry.recordProbeOutcomeInGeneration,
    LearnedCapabilityRegistry.guardedFor, ProbeAdmission.makeKey_eq]
  cases admitted : registry.admits admission.generation admission.feature with
  | false => rw [LearnedCapabilityRegistry.guardedKeyed_stale admitted]
  | true =>
    by_cases leased : admission.key ∈ registry.purgeLeases
    · rw [LearnedCapabilityRegistry.guardedKeyed_reserved admitted leased]
    · have full : u64Max ≤ registry.nextIncarnation :=
        Nat.not_lt.mp fun room => refused ⟨admitted, leased, room⟩
      rw [LearnedCapabilityRegistry.guardedKeyed_exhausted admitted leased full]

/-- What a settlement records is exactly an accepted settlement of a resident
entry. -/
theorem recordsRejection_iff :
    RecordsRejection hasher admission.key now registry
        (settleAdmission hasher registry admission .sameCapabilityRejection now).1 ↔
      SettlementAccepted registry admission ∧
        (registry.entries.lookup admission.key).isSome = true := by
  constructor
  · rintro ⟨entry, resident, counted, -⟩
    constructor
    · by_contra refused
      rw [settleAdmission_counter_kept refused] at counted
      omega
    · rw [resident]
      rfl
  · rintro ⟨⟨admitted, unleased, room⟩, resident⟩
    obtain ⟨entry, held⟩ := Option.isSome_iff_exists.mp resident
    refine ⟨entry, held, ?_, ?_⟩
    · simp only [settleAdmission, LearnedCapabilityRegistry.recordProbeOutcomeInGeneration,
        LearnedCapabilityRegistry.guardedFor, ProbeAdmission.makeKey_eq,
        LearnedCapabilityRegistry.guardedKeyed_mutate admitted unleased room]
    · simp only [settleAdmission, LearnedCapabilityRegistry.recordProbeOutcomeInGeneration,
        LearnedCapabilityRegistry.guardedFor, ProbeAdmission.makeKey_eq,
        LearnedCapabilityRegistry.guardedKeyed_mutate admitted unleased room,
        Library.KeyedMap.lookup_modify_self,
        (recordProbeOutcomeIn_spec registry.purgeLeases hasher .sameCapabilityRejection now).1,
        settleSlot, held, Option.map_some]

theorem settlementRefused_iff :
    SettlementRefused hasher registry admission now ↔ ¬ SettlementAccepted registry admission := by
  rw [← settleAdmission_applied_iff hasher registry admission .sameCapabilityRejection now]
  simp only [SettlementRefused]
  cases (settleAdmission hasher registry admission .sameCapabilityRejection now).2 with
  | applied value incarnation granted => simp
  | stale => simp
  | exhausted => simp
  | reserved => simp

end Settling

section Committing
variable {hasher} {registry : LearnedCapabilityRegistry} {rejection : Rejection}
  {guard : LearnedProbeGuard} {admission : ProbeAdmission} {generation now : Nat}
  {dedupe : LearnDedupe}

theorem matching_of_settles (settles : disposition rejection dedupe guard = .settles admission) :
    guard.matching rejection.stateKey rejection.featureKey rejection.providerKind =
        some admission ∧
      rejection.featureKey ≠ operatorRemapCapability ∧
      (!rejection.requestFeatures.contains rejection.featureKey) = false ∧
      rejection.masked = false := by
  simp only [disposition] at settles
  split at settles
  · cases settles
  · rename_i kept
    split at settles
    · cases settles
    · rename_i member
      split at settles
      · cases settles
      · rename_i unmasked
        refine ⟨?_, kept, Bool.not_eq_true _ ▸ member, Bool.not_eq_true _ ▸ unmasked⟩
        split at settles
        · rename_i matched
          cases settles
          exact matched
        · split at settles
          · cases settles
          · cases settles

/-- A settlement passed on as stale leaves the commit with nothing to report. -/
theorem commit_stale (settles : disposition rejection dedupe guard = .settles admission)
    (stale : (settleAdmission hasher registry admission .sameCapabilityRejection now).2 = .stale) :
    probeFailuresCounted hasher registry rejection guard now = 0 ∧
      (commitLearnedObservation hasher registry generation rejection dedupe guard now).2.1 =
        dedupe := by
  obtain ⟨matched, kept, member, unmasked⟩ := matching_of_settles settles
  have passed := (LearnedProbeGuard.settleSameCapability_stale_iff hasher matched registry now).mpr
    stale
  constructor
  · simp only [probeFailuresCounted, kept, member, unmasked, passed, if_false, Bool.false_eq_true]
  · simp only [commitLearnedObservation, kept, member, unmasked, if_false, Bool.false_eq_true]
    split
    · rfl
    · rename_i same
      rw [same] at passed
      cases passed
    · rename_i same
      rw [same] at passed
      cases passed

end Committing

/-- A held admission settles honestly exactly when it is stale, or its key is
free of a purge, an incarnation is left and its entry is resident. -/
theorem reports_honestly_iff (registry : LearnedCapabilityRegistry) (generation : Nat)
    (rejection : Rejection) (dedupe : LearnDedupe) (guard : LearnedProbeGuard)
    (admission : ProbeAdmission) (now : Nat)
    (held : guard.matching rejection.stateKey rejection.featureKey rejection.providerKind =
      some admission) :
    ReportsHonestly hasher registry generation rejection dedupe guard admission now ↔
      SettlesResident registry admission := by
  obtain ⟨settled, counted⟩ :=
    LearnedProbeGuard.settleSameCapability_some hasher held registry now
  have passed := LearnedProbeGuard.settleSameCapability_stale_iff hasher held registry now
  rw [settleAdmission_stale_iff] at passed
  constructor
  · rintro ⟨honest, -⟩ admitted
    have applied : (guard.settleSameCapability hasher registry rejection.stateKey
        rejection.featureKey rejection.providerKind now).2.2 = .applied := by
      cases answer : (guard.settleSameCapability hasher registry rejection.stateKey
          rejection.featureKey rejection.providerKind now).2.2 with
      | applied => rfl
      | noMatch => exact absurd answer counted
      | stale => cases (passed.mp answer).symm.trans admitted
    have recorded := honest applied
    rw [settled] at recorded
    obtain ⟨⟨-, unleased, room⟩, resident⟩ := recordsRejection_iff.mp recorded
    exact ⟨unleased, room, resident⟩
  · intro resident
    constructor
    · intro applied
      rw [settled]
      have admitted : registry.admits admission.generation admission.feature = true := by
        rw [← Bool.not_eq_false]
        intro stale
        cases (passed.mpr stale).symm.trans applied
      obtain ⟨unleased, room, held⟩ := resident admitted
      exact recordsRejection_iff.mpr ⟨⟨admitted, unleased, room⟩, held⟩
    · intro settles refused
      apply commit_stale settles
      rw [settleAdmission_stale_iff, ← Bool.not_eq_true]
      intro admitted
      obtain ⟨unleased, room, -⟩ := resident admitted
      exact settlementRefused_iff.mp refused ⟨admitted, unleased, room⟩

/-- A lapsed negative, its re-probe in flight, and an operator purge of its key. -/
def purgedInFlight : LearnedCapabilityRegistry :=
  let observed := LearnedCapabilityRegistry.new 48 1 1024
    |>.observeInGenerationWithObservations 1 "lane" "web_search" "openai-compat" .selfIdentifying
      .f1 .live none 0
  let admitted := observed.1.actingNegativeInGeneration 1 "lane" "web_search" "openai-compat" 48
  (admitted.1.preparePurge 1 "lane" "web_search" "openai-compat").1

/-- The upstream refusing the re-probed capability once more. -/
def repeatedRejection : Rejection :=
  { featureKey := "web_search", tier := .selfIdentifying, phase := .f1,
    failure := .featureUnsupported "web_search", stateKey := "lane",
    providerKind := "openai-compat", requestFeatures := ["web_search"], masked := false,
    canonical := by decide }

def heldReprobe : ProbeAdmission := .granted "lane" "web_search" "openai-compat" 1

/-- Refused for the purge, the settlement is counted as a probe failure. -/
theorem refused_settlement_counted :
    SettlementRefused (fun _ _ => 0) purgedInFlight heldReprobe 49 ∧
      disposition repeatedRejection ∅ (.new [heldReprobe]) = .settles heldReprobe ∧
      probeFailuresCounted (fun _ _ => 0) purgedInFlight repeatedRejection (.new [heldReprobe]) 49 =
        1 ∧
      ¬ ReportsHonestly (fun _ _ => 0) purgedInFlight 1 repeatedRejection ∅ (.new [heldReprobe])
        heldReprobe 49 := by
  have refused : SettlementRefused (fun _ _ => 0) purgedInFlight heldReprobe 49 :=
    .inr (.inl (by decide))
  have settles : disposition repeatedRejection ∅ (.new [heldReprobe]) = .settles heldReprobe := by
    rfl
  have counted : probeFailuresCounted (fun _ _ => 0) purgedInFlight repeatedRejection
      (.new [heldReprobe]) 49 = 1 := by
    decide
  refine ⟨refused, settles, counted, ?_⟩
  rintro ⟨-, silent⟩
  have none := (silent settles refused).1
  rw [counted] at none
  cases none

/-- With no purge in the way the same settlement is recorded. -/
theorem reports_honestly_recorded :
    let registry := (LearnedCapabilityRegistry.new 48 1 1024
      |>.observeInGenerationWithObservations 1 "lane" "web_search" "openai-compat" .selfIdentifying
        .f1 .live none 0).1
    ReportsHonestly (fun _ _ => 0) registry 1 repeatedRejection ∅ (.new [heldReprobe]) heldReprobe 49 ∧
      SettlesResident registry heldReprobe := by
  intro registry
  have resident : SettlesResident registry heldReprobe := fun _ => by decide
  have exactly := reports_honestly_iff (fun _ _ => 0) registry 1 repeatedRejection ∅
    (.new [heldReprobe]) heldReprobe 49 rfl
  exact ⟨exactly.mpr resident, resident⟩

end Routectl.Learn
