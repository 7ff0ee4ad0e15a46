import Routectl.Registry.World

/-! Who owns a claimed re-probe slot. A settlement that is refused forgets its
admission without releasing the slot, and nothing else can strand one. -/
namespace Routectl.Registry
open Routectl.Core Library

private theorem observeSlot_inFlight {tuning : RegistryTuning} {slot : Option LearnedEntry}
    {tier : SignalTier} {phase : FailurePhase} {source : EvidenceSource} {evidence : Option String}
    {now : Nat} (claimed : (observeSlot tuning slot tier phase source evidence now).1.inFlight = true) :
    ∃ prior, slot = some prior ∧ prior.inFlight = true := by
  cases slot with
  | none => simp [observeSlot, freshEntry_inFlight] at claimed
  | some existing =>
    refine ⟨existing, rfl, ?_⟩
    cases side : existing.verdict with
    | negative => simpa [observeSlot, side, observeExisting_inFlight] using claimed
    | verified =>
      cases tier with
      | selfIdentifying => simp [observeSlot, side, freshEntry_inFlight] at claimed
      | inferred => simpa [observeSlot, side] using claimed

private theorem positiveSlot_inFlight {slot : Option LearnedEntry} {source : EvidenceSource}
    {evidence : Option String} {now : Nat}
    (claimed : (positiveSlot slot source evidence now).inFlight = true) :
    ∃ prior, slot = some prior ∧ prior.inFlight = true := by
  cases slot with
  | none => simp [positiveSlot, freshPositive] at claimed
  | some existing =>
    refine ⟨existing, rfl, ?_⟩
    cases side : existing.verdict <;> simpa [positiveSlot, side] using claimed

/-- Only an acting read claims a slot. -/
theorem GuardedOp.effect_inFlight {op : GuardedOp} {tuning : RegistryTuning} {slot : Option LearnedEntry}
    {entry : LearnedEntry} (left : op.effect tuning slot = some entry)
    (claimed : entry.inFlight = true) : ∃ prior, slot = some prior ∧ prior.inFlight = true := by
  cases op with
  | observe tier phase source evidence now =>
    obtain rfl := Option.some.inj left
    exact observeSlot_inFlight claimed
  | observePositive source evidence now =>
    obtain rfl := Option.some.inj left
    exact positiveSlot_inFlight claimed
  | negativeState now => exact ⟨entry, left, claimed⟩
  | isVerifiedWorking => exact ⟨entry, left, claimed⟩
  | fieldActingFacts now => exact ⟨entry, left, claimed⟩
  | expireKeyed now =>
    obtain ⟨prior, -, rfl⟩ := Option.map_eq_some_iff.mp left
    cases claimed
  | removeKeyed => cases left

theorem GuardedStep.inFlight {registry after : LearnedCapabilityRegistry}
    {key other : RegistryKey} {intent : Intent} {effect : Option LearnedEntry → Option LearnedEntry}
    (step : GuardedStep registry key effect intent after)
    (quiet : ∀ slot entry, effect slot = some entry → entry.inFlight = true →
      ∃ prior, slot = some prior ∧ prior.inFlight = true)
    {entry : LearnedEntry} (resident : after.entries.lookup other = some entry)
    (claimed : entry.inFlight = true) :
    ∃ prior, registry.entries.lookup other = some prior ∧ prior.inFlight = true := by
  by_cases same : other = key
  · subst same
    cases step with
    | refused => exact ⟨entry, resident, claimed⟩
    | exhausted full count => exact ⟨entry, resident, claimed⟩
    | mutated entries unleased room slot frame =>
      obtain ⟨left, produced, rfl⟩ := Option.map_eq_some_iff.mp (slot.symm.trans resident)
      exact quiet _ left produced claimed
    | read entries unleased slot frame => exact quiet _ entry (slot.symm.trans resident) claimed
  · rcases step.lookup_other same with kept | gone
    · exact ⟨entry, kept ▸ resident, claimed⟩
    · simp [gone] at resident

namespace World

/-- Every claimed re-probe slot has an admission still to be settled. -/
def NoLatchedSlot (world : World) : Prop :=
  ∀ key entry, world.registry.entries.lookup key = some entry → entry.inFlight = true →
    ∃ admission ∈ world.held, admission.key = key

/-- A settlement strands no slot: it is accepted, or its key has no claimed slot,
or another admission of the key is still held. Every other action is free. -/
def SettlesCleanly (world : World) : Action → Prop
  | .settle position _ _ =>
    ∀ admission, world.held[position]? = some admission →
      (∃ entry, world.registry.entries.lookup admission.key = some entry ∧ entry.inFlight = true) →
      SettlementAccepted world.registry admission ∨
        ∃ other ∈ world.held.eraseIdx position, other.key = admission.key
  | _ => True

section Slots
variable {world next : World} {action : Action} {hasher : RegistryKey → Nat → Nat}

/-- A change that claims no slot and keeps the admissions keeps the property. -/
theorem NoLatchedSlot.of_registry (unlatched : NoLatchedSlot world)
    (held : next.held = world.held)
    (quiet : ∀ key entry, next.registry.entries.lookup key = some entry → entry.inFlight = true →
      ∃ prior, world.registry.entries.lookup key = some prior ∧ prior.inFlight = true) :
    NoLatchedSlot next := by
  intro key entry resident claimed
  obtain ⟨prior, before, wasClaimed⟩ := quiet key entry resident claimed
  rw [held]
  exact unlatched key prior before wasClaimed

theorem NoLatchedSlot.claimed (unlatched : NoLatchedSlot world)
    {registry : LearnedCapabilityRegistry} {stateKey featureKeyRaw providerKind : String}
    {now granted : Nat}
    (step : GuardedStep world.registry (makeKey stateKey featureKeyRaw providerKind)
      (fun slot => claimSlot slot now) .read registry) :
    NoLatchedSlot { world with
      registry, held := .granted stateKey featureKeyRaw providerKind granted :: world.held } := by
  intro key entry resident claimed
  by_cases same : key = makeKey stateKey featureKeyRaw providerKind
  · exact ⟨_, List.mem_cons_self, same.symm⟩
  · rcases step.lookup_other same with kept | gone
    · obtain ⟨admission, member, named⟩ := unlatched key entry (kept ▸ resident) claimed
      exact ⟨admission, List.mem_cons_of_mem _ member, named⟩
    · exact absurd (gone.symm.trans resident) (by simp)

theorem noLatchedSlot_settle_iff (unlatched : NoLatchedSlot world) {position : Nat}
    {admission : ProbeAdmission} (present : world.held[position]? = some admission)
    (outcome : ProbeOutcome) (now : Nat) :
    NoLatchedSlot { world with
      registry := (settleAdmission hasher world.registry admission outcome now).1,
      held := world.held.eraseIdx position } ↔
      SettlesCleanly world (.settle position outcome now) := by
  have step := settleAdmission_step hasher world.registry admission outcome now
  have survives {key : RegistryKey} (different : key ≠ admission.key)
      (owned : ∃ other ∈ world.held, other.key = key) :
      ∃ other ∈ world.held.eraseIdx position, other.key = key := by
    obtain ⟨other, member, named⟩ := owned
    obtain ⟨index, found⟩ := List.getElem?_of_mem member
    refine ⟨other, List.mem_eraseIdx_iff_getElem?.mpr ⟨index, ?_, found⟩, named⟩
    intro same
    rw [same, present] at found
    exact different (named ▸ congrArg ProbeAdmission.key (Option.some.inj found).symm)
  constructor
  · intro after settled same claimed
    obtain rfl := Option.some.inj (present.symm.trans same)
    by_cases accepted : SettlementAccepted world.registry admission
    · exact .inl accepted
    · obtain ⟨entry, resident, inFlight⟩ := claimed
      rw [← settleAdmission_refused hasher accepted outcome now] at resident
      exact .inr (after admission.key entry resident inFlight)
  · intro clean key entry resident claimed
    by_cases same : key = admission.key
    · subst same
      by_cases accepted : SettlementAccepted world.registry admission
      · rw [settleAdmission_accepted hasher accepted outcome now resident] at claimed
        cases claimed
      · simp only [settleAdmission_refused hasher accepted outcome now] at resident
        rcases clean admission present ⟨entry, resident, claimed⟩ with yes | other
        · exact absurd yes accepted
        · exact other
    · rcases step.lookup_other same with kept | gone
      · exact survives same (unlatched key entry (kept ▸ resident) claimed)
      · exact absurd (gone.symm.trans resident) (by simp)

theorem NoLatchedSlot.of_subset (unlatched : NoLatchedSlot world) (held : next.held = world.held)
    (kept : ∀ key entry, next.registry.entries.lookup key = some entry →
      world.registry.entries.lookup key = some entry) : NoLatchedSlot next :=
  unlatched.of_registry held fun key entry resident claimed =>
    ⟨entry, kept key entry resident, claimed⟩

theorem noLatchedSlot_moved_iff (unlatched : NoLatchedSlot world)
    (moved : Moved hasher world action next) :
    NoLatchedSlot next ↔ SettlesCleanly world action := by
  cases moved with
  | settled admission present => exact noLatchedSlot_settle_iff unlatched present _ _
  | called call registry step =>
    exact iff_of_true (unlatched.of_registry rfl fun _ _ =>
      step.inFlight fun _ _ => GuardedOp.effect_inFlight) trivial
  | looked registry step =>
    exact iff_of_true (unlatched.of_registry rfl fun _ _ =>
      step.inFlight fun _ entry left claimed => ⟨entry, left, claimed⟩) trivial
  | claimed granted registry step => exact iff_of_true (unlatched.claimed step) trivial
  | removed live found open_ =>
    refine iff_of_true (unlatched.of_subset rfl ?_) trivial
    intro key entry resident
    simp only [LearnedCapabilityRegistry.finalizeRemove] at resident
    split at resident
    · split at resident
      · by_cases same : key = live.lease.key
        · subst same
          simp [AList.lookup_erase] at resident
        · rwa [AList.lookup_erase_ne same] at resident
      · exact resident
    · exact resident
  | committed pending advances =>
    refine iff_of_true (unlatched.of_subset rfl ?_) trivial
    intro key entry resident
    simp only [KeyedMap.lookup_retain] at resident
    split at resident
    · exact resident
    · cases resident
  | rehashed entries permuted =>
    refine iff_of_true (unlatched.of_subset rfl ?_) trivial
    intro key entry resident
    exact (AList.perm_lookup permuted).symm.trans resident
  | released live found kind =>
    have free : SettlesCleanly world action := by
      rcases kind with ⟨rfl, -⟩ | ⟨rfl, -⟩ | ⟨rfl, -⟩ <;> exact trivial
    exact iff_of_true (unlatched.of_subset rfl fun _ _ same => same) free
  | stale receipt other kind =>
    have free : SettlesCleanly world action := by
      rcases kind with rfl | rfl <;> exact trivial
    exact iff_of_true unlatched free
  | unprepared => exact iff_of_true unlatched trivial
  | uncut => exact iff_of_true unlatched trivial
  | prepared | cut | regressed | rolledBack | retuned =>
    exact iff_of_true (unlatched.of_subset rfl fun _ _ same => same) trivial

end Slots

/-- No slot is latched, and a key with every admission settled re-probes on the
next unleased read of the active generation once its negative has lapsed. An
advisory negative routes nothing and so has nothing to re-probe. -/
structure SlotsSettled (world : World) : Prop where
  unlatched : NoLatchedSlot world
  reprobes : ∀ stateKey featureKeyRaw providerKind now entry,
    (∀ admission ∈ world.held, admission.key ≠ makeKey stateKey featureKeyRaw providerKind) →
    world.registry.entries.lookup (makeKey stateKey featureKeyRaw providerKind) = some entry →
    entry.isActing = true → entry.actingDecision ≠ .allow → entry.isExpired now = true →
    makeKey stateKey featureKeyRaw providerKind ∉ world.registry.purgeLeases →
    (world.registry.actingNegativeInGeneration world.registry.generation stateKey featureKeyRaw
      providerKind now).2 = some (.probeAdmitted, world.registry.effectivePersistenceGeneration)

theorem slotsSettled_iff {world : World} : SlotsSettled world ↔ NoLatchedSlot world := by
  refine ⟨SlotsSettled.unlatched, fun unlatched => ⟨unlatched, ?_⟩⟩
  intro stateKey featureKeyRaw providerKind now entry settled resident acting routes lapsed unleased
  have idle : entry.inFlight = false := by
    by_contra claimed
    obtain ⟨admission, member, same⟩ := unlatched _ entry resident (by simpa using claimed)
    exact settled admission member same
  have admitted : world.registry.admits world.registry.generation featureKeyRaw = true := by
    simp [LearnedCapabilityRegistry.admits]
  have due : entry.probeDue now = true := by
    simp [LearnedEntry.probeDue, acting, routes, lapsed, idle]
  exact world.registry.actingNegativeInGeneration_due _ _ _ _ _ admitted unleased resident due

theorem noLatchedSlot_initial (decay inferredWindow maxEntries : Nat) :
    NoLatchedSlot (initial decay inferredWindow maxEntries) := by
  intro key entry resident
  cases resident

/-- A run keeps every re-probe slot owned in all the states it meets exactly when
each of its settlements is clean. -/
theorem probe_slots_settled_iff (hasher : RegistryKey → Nat → Nat)
    (decay inferredWindow maxEntries : Nat) (actions : List Action) :
    (∀ met, (machine hasher).Visits (initial decay inferredWindow maxEntries) actions met →
        SlotsSettled met) ↔
      (machine hasher).AllSteps SettlesCleanly (initial decay inferredWindow maxEntries) actions := by
  simp only [slotsSettled_iff]
  have anything : (machine hasher).Preserves fun _ => True := fun _ _ _ _ _ => trivial
  exact (machine hasher).always_iff_allSteps anything
    (fun _ _ _ _ unlatched step => noLatchedSlot_moved_iff unlatched (step_moved step)) trivial
    (noLatchedSlot_initial decay inferredWindow maxEntries)

/-- A negative lapses, its re-probe is admitted, an operator opens a purge, the
dispatch is dropped under the lease, and the purge is abandoned. -/
def latchingRun : List Action :=
  [.call ⟨1, "lane", "web_search", "openai-compat", .observe .selfIdentifying .f1 .live none 0⟩,
   .read 1 "lane" "web_search" "openai-compat" 48,
   .preparePurge 1 "lane" "web_search" "openai-compat",
   .settle 0 .otherError 49,
   .restorePurge 0]

/-- The slot stays claimed with nobody left to settle it. -/
theorem probe_slot_latched :
    ∃ world, (machine fun _ _ => 0).run (initial 48 1 1024) latchingRun = some world ∧
      world.held = [] ∧ world.leases = [] ∧ ¬ NoLatchedSlot world := by
  obtain ⟨world, reached⟩ := Option.isSome_iff_exists.mp
    (by decide : ((machine fun _ _ => 0).run (initial 48 1 1024) latchingRun).isSome = true)
  have idle : ((machine fun _ _ => 0).run (initial 48 1 1024) latchingRun).map
      (fun world => (world.held, world.leases)) = some ([], []) := by decide
  have claimed : (((machine fun _ _ => 0).run (initial 48 1 1024) latchingRun).bind fun world =>
      (world.registry.entries.lookup ⟨"lane", "web_search"⟩).map LearnedEntry.inFlight) =
        some true := by decide
  rw [reached] at idle claimed
  obtain ⟨held, leases⟩ := Prod.mk.inj (Option.some.inj idle)
  refine ⟨world, reached, held, leases, fun unlatched => ?_⟩
  obtain ⟨entry, resident, inFlight⟩ := Option.map_eq_some_iff.mp claimed
  obtain ⟨admission, member, -⟩ := unlatched _ entry resident inFlight
  simp [held] at member

section Guards
variable (hasher : RegistryKey → Nat → Nat) (world : World) (rest : List ProbeAdmission)

/-- Settling a batch is settling its admissions one after another. -/
theorem run_settleAll (probes : List ProbeAdmission) (outcome : ProbeOutcome) (now : Nat) :
    (machine hasher).run { world with held := probes ++ rest }
        (probes.map fun _ => .settle 0 outcome now) =
      some { world with
        registry := settleAll hasher world.registry probes outcome now, held := rest } := by
  induction probes generalizing world with
  | nil => rfl
  | cons probe others ih =>
    rw [List.map_cons, Machine.run_cons]
    exact ih { world with
      registry := (settleAdmission hasher world.registry probe outcome now).1 }

/-- A successful dispatch settles every admission its guard holds. -/
theorem settleSuccess_run (guard : LearnedProbeGuard) (armed : guard.armed = true) (now : Nat) :
    (machine hasher).run { world with held := guard.probes ++ rest }
        (guard.probes.map fun _ => .settle 0 .success now) =
      some { world with
        registry := (guard.settleSuccess hasher world.registry now).1, held := rest } := by
  rw [run_settleAll, guard.settleSuccess_registry hasher world.registry now armed]

/-- A dropped guard settles every admission it still holds. -/
theorem guardDrop_run (guard : LearnedProbeGuard) (armed : guard.armed = true) (now : Nat) :
    (machine hasher).run { world with held := guard.probes ++ rest }
        (guard.probes.map fun _ => .settle 0 .otherError now) =
      some { world with registry := guard.drop hasher world.registry now, held := rest } := by
  rw [run_settleAll, LearnedProbeGuard.drop, if_pos armed]

/-- A dropped admission set settles every admission no target took. -/
theorem setDrop_run (set : ProbeAdmissionSet) (now : Nat) :
    (machine hasher).run { world with held := set.owned ++ rest }
        (set.owned.map fun _ => .settle 0 .otherError now) =
      some { world with registry := set.drop hasher world.registry now, held := rest } := by
  rw [run_settleAll, set.drop_eq_settleAll]

end Guards
end World
end Routectl.Registry
