import Routectl.Registry.World

/-! No interleaving reaches an entry a purge holds: the lease set, the pending
boundary and the captured versions stay consistent in every reachable world. -/
namespace Routectl.Registry
open Library

/-- The step with which a lease's holder moves on: settling an open lease, or
leaving the finalize of a removed one. -/
def Action.settles (action : Action) (live : LiveLease) : Bool :=
  match action with
  | .finalizeRemove serial | .restorePurge serial | .dropLease serial =>
    !live.removed && serial = live.serial
  | .finalizeRelease serial => live.removed && serial = live.serial
  | _ => false

namespace World

/-- What the callers' open leases say about the registry. -/
structure LeaseInvariant (world : World) : Prop where
  serials : (world.leases.map LiveLease.serial).Nodup
  fresh : ∀ live ∈ world.leases, live.serial < world.nextSerial
  keys : (world.leases.map fun live => live.lease.key).Nodup
  leased : ∀ key, key ∈ world.registry.purgeLeases ↔ ∃ live ∈ world.leases, live.lease.key = key
  captured : ∀ live ∈ world.leases, live.removed = false →
    world.registry.entries.lookup live.lease.key = some live.lease.captured
  gone : ∀ live ∈ world.leases, live.removed = true →
    world.registry.entries.lookup live.lease.key = none
  exclusive : world.registry.pendingGeneration = none ∨ world.registry.purgeLeases = ∅

theorem LeaseInvariant.initial (decay inferredWindow maxEntries : Nat) :
    LeaseInvariant (initial decay inferredWindow maxEntries) where
  serials := List.nodup_nil
  fresh := by simp [World.initial]
  keys := List.nodup_nil
  leased := by simp [World.initial, LearnedCapabilityRegistry.new]
  captured := by simp [World.initial]
  gone := by simp [World.initial]
  exclusive := .inl rfl

namespace LeaseInvariant
variable {world next : World} {action : Action} {hasher : RegistryKey → Nat → Nat}

theorem found (invariant : LeaseInvariant world) {live : LiveLease} (member : live ∈ world.leases) :
    world.findLease live.serial = some live := by
  cases search : world.findLease live.serial with
  | none => exact absurd (List.find?_eq_none.mp search live member) (by simp)
  | some other =>
    have same : other.serial = live.serial := by simpa using List.find?_some search
    have present := List.mem_of_find?_eq_some search
    exact congrArg some (List.inj_on_of_nodup_map invariant.serials present member same)

/-- A change that leaves the callers, the lease set and the leased entries alone
keeps the invariant. -/
theorem of_registry (invariant : LeaseInvariant world) (registry : LearnedCapabilityRegistry)
    (held : List ProbeAdmission)
    (leases : registry.purgeLeases = world.registry.purgeLeases)
    (lookups : ∀ key ∈ world.registry.purgeLeases,
      registry.entries.lookup key = world.registry.entries.lookup key)
    (exclusive : registry.pendingGeneration = none ∨ registry.purgeLeases = ∅) :
    LeaseInvariant { world with registry, held } := by
  have kept (live : LiveLease) (member : live ∈ world.leases) :
      registry.entries.lookup live.lease.key = world.registry.entries.lookup live.lease.key :=
    lookups _ ((invariant.leased _).mpr ⟨live, member, rfl⟩)
  exact
    { serials := invariant.serials
      fresh := invariant.fresh
      keys := invariant.keys
      leased := fun key => by simpa [leases] using invariant.leased key
      captured := fun live member open_ => (kept live member).trans (invariant.captured live member open_)
      gone := fun live member removed => (kept live member).trans (invariant.gone live member removed)
      exclusive }

theorem guarded (invariant : LeaseInvariant world) {registry : LearnedCapabilityRegistry}
    {key : RegistryKey} {effect : Option LearnedEntry → Option LearnedEntry} {intent : Intent}
    (step : GuardedStep world.registry key effect intent registry) (held : List ProbeAdmission) :
    LeaseInvariant { world with registry, held } :=
  invariant.of_registry registry held step.purgeLeases_eq (fun _ => step.leased_lookup) (by
    rw [step.pendingGeneration_eq, step.purgeLeases_eq]
    exact invariant.exclusive)

theorem prepared (invariant : LeaseInvariant world) (lease : PurgeLease)
    (unpending : world.registry.pendingGeneration = none)
    (resident : world.registry.entries.lookup lease.key = some lease.captured)
    (unleased : lease.key ∉ world.registry.purgeLeases) :
    LeaseInvariant { world with
      registry := { world.registry with
        purgeLeases := insert lease.key world.registry.purgeLeases },
      leases := ⟨world.nextSerial, lease, false⟩ :: world.leases,
      nextSerial := world.nextSerial + 1 } where
  serials := by
    refine List.nodup_cons.mpr ⟨?_, invariant.serials⟩
    intro member
    obtain ⟨live, present, same⟩ := List.mem_map.mp member
    have older := invariant.fresh live present
    simp only at same
    omega
  fresh := by
    intro live member
    rcases List.mem_cons.mp member with rfl | older
    · exact Nat.lt_succ_self _
    · exact Nat.lt_succ_of_lt (invariant.fresh live older)
  keys := by
    refine List.nodup_cons.mpr ⟨?_, invariant.keys⟩
    intro member
    obtain ⟨live, present, same⟩ := List.mem_map.mp member
    exact unleased ((invariant.leased _).mpr ⟨live, present, same⟩)
  leased := by
    intro key
    simp only [Finset.mem_insert, List.mem_cons, exists_eq_or_imp, invariant.leased key, eq_comm]
  captured := by
    intro live member open_
    rcases List.mem_cons.mp member with rfl | older
    · exact resident
    · exact invariant.captured live older open_
  gone := by
    intro live member removed
    rcases List.mem_cons.mp member with rfl | older
    · cases removed
    · exact invariant.gone live older removed
  exclusive := .inl unpending

private theorem other_key (invariant : LeaseInvariant world) {first second : LiveLease}
    (firstMember : first ∈ world.leases) (secondMember : second ∈ world.leases)
    (different : first.serial ≠ second.serial) : first.lease.key ≠ second.lease.key := by
  intro same
  have equal := List.inj_on_of_nodup_map invariant.keys firstMember secondMember same
  exact different (congrArg LiveLease.serial equal)

theorem released (invariant : LeaseInvariant world) {live : LiveLease} {serial : Nat}
    (found : world.findLease serial = some live) :
    LeaseInvariant { world with
      registry := world.registry.releaseLease live.lease, leases := world.forgetLease serial } := by
  have member := List.mem_of_find?_eq_some found
  have named : live.serial = serial := by simpa using List.find?_some found
  have remaining {other : LiveLease} (present : other ∈ world.forgetLease serial) :
      other ∈ world.leases ∧ other.serial ≠ serial := by
    simpa [forgetLease] using List.mem_filter.mp present
  refine
    { serials := invariant.serials.sublist (List.filter_sublist.map _)
      fresh := fun other present => invariant.fresh other (remaining present).1
      keys := invariant.keys.sublist (List.filter_sublist.map _)
      leased := ?_
      captured := fun other present => invariant.captured other (remaining present).1
      gone := fun other present => invariant.gone other (remaining present).1
      exclusive := ?_ }
  · intro key
    simp only [LearnedCapabilityRegistry.releaseLease, Finset.mem_erase, invariant.leased key]
    constructor
    · rintro ⟨different, other, present, rfl⟩
      refine ⟨other, List.mem_filter.mpr ⟨present, ?_⟩, rfl⟩
      have distinct : other.serial ≠ serial := by
        intro same
        have equal := List.inj_on_of_nodup_map invariant.serials present member (same.trans named.symm)
        exact different (equal ▸ rfl)
      simpa using distinct
    · rintro ⟨other, present, rfl⟩
      obtain ⟨older, distinct⟩ := remaining present
      exact ⟨invariant.other_key older member (named ▸ distinct), other, older, rfl⟩
  · rcases invariant.exclusive with none | empty
    · exact .inl none
    · exact .inr (by simp [LearnedCapabilityRegistry.releaseLease, empty])

theorem removed (invariant : LeaseInvariant world) {live : LiveLease} {serial : Nat}
    (found : world.findLease serial = some live) (open_ : live.removed = false) :
    LeaseInvariant { world with
      registry := (world.registry.finalizeRemove live.lease).1,
      leases := world.markRemoved serial } := by
  have member := List.mem_of_find?_eq_some found
  have named : live.serial = serial := by simpa using List.find?_some found
  rw [world.registry.finalizeRemove_captured (invariant.captured live member open_)]
  have marked {other : LiveLease} (present : other ∈ world.markRemoved serial) :
      ∃ older ∈ world.leases, other = (if older.serial = serial then
        { older with removed := true } else older) := by
    obtain ⟨older, before, rfl⟩ := List.mem_map.mp present
    exact ⟨older, before, rfl⟩
  have serialsSame : (world.markRemoved serial).map LiveLease.serial =
      world.leases.map LiveLease.serial := by
    simp only [markRemoved, List.map_map]
    refine List.map_congr_left fun older _ => ?_
    simp only [Function.comp_apply]
    split <;> rfl
  have keysSame : (world.markRemoved serial).map (fun other => other.lease.key) =
      world.leases.map fun other => other.lease.key := by
    simp only [markRemoved, List.map_map]
    refine List.map_congr_left fun older _ => ?_
    simp only [Function.comp_apply]
    split <;> rfl
  refine
    { serials := serialsSame ▸ invariant.serials
      fresh := ?_
      keys := keysSame ▸ invariant.keys
      leased := ?_
      captured := ?_
      gone := ?_
      exclusive := invariant.exclusive }
  · intro other present
    obtain ⟨older, before, rfl⟩ := marked present
    have bound := invariant.fresh older before
    split <;> exact bound
  · intro key
    rw [invariant.leased key]
    have same := congrArg (key ∈ ·) keysSame
    simp only [List.mem_map, eq_iff_iff] at same
    exact same.symm
  · intro other present stillOpen
    obtain ⟨older, before, rfl⟩ := marked present
    split at stillOpen
    · cases stillOpen
    · rename_i distinct
      rw [if_neg distinct]
      have different := invariant.other_key before member (named ▸ distinct)
      exact (AList.lookup_erase_ne different).trans (invariant.captured older before stillOpen)
  · intro other present gone
    obtain ⟨older, before, rfl⟩ := marked present
    by_cases same : older.serial = serial
    · rw [if_pos same]
      have equal := List.inj_on_of_nodup_map invariant.serials before member (same.trans named.symm)
      rw [equal]
      exact AList.lookup_erase _ _
    · rw [if_neg same] at gone ⊢
      have different := invariant.other_key before member (named ▸ same)
      exact (AList.lookup_erase_ne different).trans (invariant.gone older before gone)

/-- A settled boundary finds no open lease, so it may move any entry. -/
theorem settled (invariant : LeaseInvariant world) {receipt : BoundaryReceipt}
    (pending : world.registry.pendingGeneration = some receipt)
    (registry : LearnedCapabilityRegistry) (receipts : List BoundaryReceipt)
    (leases : registry.purgeLeases = world.registry.purgeLeases)
    (unpending : registry.pendingGeneration = none) :
    LeaseInvariant { world with registry, settled := receipts } := by
  have empty : world.registry.purgeLeases = ∅ := by
    rcases invariant.exclusive with none | empty
    · simp [none] at pending
    · exact empty
  have nobody (live : LiveLease) (member : live ∈ world.leases) : False := by
    have present := (invariant.leased _).mpr ⟨live, member, rfl⟩
    simp [empty] at present
  exact
    { serials := invariant.serials
      fresh := invariant.fresh
      keys := invariant.keys
      leased := fun key => by simpa [leases] using invariant.leased key
      captured := fun live member => (nobody live member).elim
      gone := fun live member => (nobody live member).elim
      exclusive := .inl unpending }

theorem moved (invariant : LeaseInvariant world) (moved : Moved hasher world action next) :
    LeaseInvariant next := by
  cases moved with
  | called call registry step => exact invariant.guarded step world.held
  | looked registry step => exact invariant.guarded step world.held
  | claimed granted registry step => exact invariant.guarded step _
  | settled admission present =>
    exact invariant.guarded (settleAdmission_step hasher world.registry admission _ _) _
  | unprepared => exact invariant
  | prepared lease key unpending resident unleased =>
    exact invariant.prepared lease unpending resident unleased
  | removed live found open_ => exact invariant.removed found open_
  | released live found kind => exact invariant.released found
  | uncut => exact invariant
  | cut receipt unpending unleased derived =>
    exact
      { serials := invariant.serials
        fresh := invariant.fresh
        keys := invariant.keys
        leased := invariant.leased
        captured := invariant.captured
        gone := invariant.gone
        exclusive := .inr unleased }
  | stale receipt other kind => exact invariant
  | regressed pending still => exact invariant.settled pending _ world.settled rfl rfl
  | committed pending advances => exact invariant.settled pending _ _ rfl rfl
  | rolledBack pending => exact invariant.settled pending _ _ rfl rfl
  | retuned tuning => exact invariant.of_registry _ world.held rfl (fun _ _ => rfl) invariant.exclusive
  | rehashed entries permuted =>
    exact invariant.of_registry _ world.held rfl (fun _ _ => AList.perm_lookup permuted)
      invariant.exclusive

end LeaseInvariant

theorem leaseInvariant_preserved (hasher : RegistryKey → Nat → Nat) :
    (machine hasher).Preserves LeaseInvariant :=
  fun _ _ _ invariant step => invariant.moved (step_moved step)

theorem Reachable.leaseInvariant {hasher : RegistryKey → Nat → Nat} {world : World}
    (reachable : Reachable hasher world) : LeaseInvariant world :=
  reachable.invariant hasher LeaseInvariant.initial (leaseInvariant_preserved hasher)

section Holding
variable {hasher : RegistryKey → Nat → Nat} {world next : World} {action : Action}

private theorem mem_forgetLease {live : LiveLease} {serial : Nat} (member : live ∈ world.leases)
    (different : serial ≠ live.serial) : live ∈ world.forgetLease serial :=
  List.mem_filter.mpr ⟨member, by simpa using different.symm⟩

private theorem mem_markRemoved {live : LiveLease} {serial : Nat} (member : live ∈ world.leases)
    (different : serial ≠ live.serial) : live ∈ world.markRemoved serial :=
  List.mem_map.mpr ⟨live, member, if_neg different.symm⟩

theorem LeaseInvariant.keeps (invariant : LeaseInvariant world) {live : LiveLease}
    (member : live ∈ world.leases) (moved : Moved hasher world action next)
    (waits : action.settles live = false) : live ∈ next.leases := by
  have samePhase {other : LiveLease} {serial : Nat} (found : world.findLease serial = some other)
      (same : serial = live.serial) : other = live := by
    rw [same, invariant.found member] at found
    exact (Option.some.inj found).symm
  cases moved with
  | prepared lease key unpending resident unleased => exact List.mem_cons_of_mem _ member
  | removed other found open_ =>
    refine mem_markRemoved member fun same => ?_
    have equal := samePhase found same
    subst equal
    simp [Action.settles, same, open_] at waits
  | released other found kind =>
    refine mem_forgetLease member fun same => ?_
    have equal := samePhase found same
    subst equal
    rcases kind with ⟨rfl, phase⟩ | ⟨rfl, phase⟩ | ⟨rfl, phase⟩ <;>
      simp [Action.settles, same, phase] at waits
  | _ => exact member

/-- Whatever runs meanwhile, a lease nobody moves on stays exactly as it is. -/
theorem LeaseInvariant.keeps_run {live : LiveLease} {actions : List Action} {final : World}
    (invariant : LeaseInvariant world) (member : live ∈ world.leases)
    (reached : (machine hasher).run world actions = some final)
    (waits : ∀ action ∈ actions, action.settles live = false) :
    LeaseInvariant final ∧ live ∈ final.leases := by
  induction actions generalizing world with
  | nil => exact Option.some.inj reached ▸ ⟨invariant, member⟩
  | cons action rest ih =>
    obtain ⟨next, step, onward⟩ := (machine hasher).run_cons_eq_some.mp reached
    have moved := step_moved step
    exact ih (invariant.moved moved)
      (invariant.keeps member moved (waits action List.mem_cons_self)) onward
      fun other later => waits other (List.mem_cons_of_mem _ later)

theorem LeaseInvariant.finalize_step (hasher : RegistryKey → Nat → Nat)
    (invariant : LeaseInvariant world) {live : LiveLease} (member : live ∈ world.leases) (open_ : live.removed = false) :
    world.step hasher (.finalizeRemove live.serial) = some { world with
      registry := { world.registry with entries := world.registry.entries.erase live.lease.key },
      leases := world.markRemoved live.serial } := by
  obtain ⟨serial, lease, phase⟩ := live
  subst open_
  have resident := invariant.captured _ member rfl
  simp only [World.step, invariant.found member, world.registry.finalizeRemove_captured resident]

theorem LeaseInvariant.release_step (invariant : LeaseInvariant world) {live : LiveLease}
    (member : live ∈ world.leases)
    (kind : live.removed = true ∧ action = .finalizeRelease live.serial ∨
      live.removed = false ∧ (action = .restorePurge live.serial ∨ action = .dropLease live.serial)) :
    world.step hasher action = some { world with
      registry := world.registry.releaseLease live.lease,
      leases := world.forgetLease live.serial } := by
  obtain ⟨serial, lease, phase⟩ := live
  have found := invariant.found member
  rcases kind with ⟨rfl, rfl⟩ | ⟨rfl, rfl | rfl⟩ <;>
    simp only [World.step, found, LearnedCapabilityRegistry.restorePurge,
      LearnedCapabilityRegistry.dropLease]

end Holding

/-- What an operator relies on while a purge of a key is open. -/
structure PurgeIsolated (hasher : RegistryKey → Nat → Nat) (world : World) : Prop where
  exclusive : world.registry.pendingGeneration = none ∨ world.registry.purgeLeases = ∅
  untouched : ∀ generation stateKey featureKeyRaw providerKind registry lease actions final,
    world.registry.preparePurge generation stateKey featureKeyRaw providerKind =
      (registry, .reserved lease) →
    (machine hasher).run world
      (.preparePurge generation stateKey featureKeyRaw providerKind :: actions) = some final →
    (∀ action ∈ actions, action.settles ⟨world.nextSerial, lease, false⟩ = false) →
    ⟨world.nextSerial, lease, false⟩ ∈ final.leases ∧
      final.registry.entries.lookup lease.key = world.registry.entries.lookup lease.key ∧
      world.registry.entries.lookup lease.key = some lease.captured
  finalized : ∀ live ∈ world.leases, live.removed = false →
    world.registry.entries.lookup live.lease.key = some live.lease.captured ∧
    (world.registry.finalizeRemove live.lease).2 = true ∧
    ∃ middle, world.step hasher (.finalizeRemove live.serial) = some middle ∧
      middle.registry = { world.registry with
        entries := world.registry.entries.erase live.lease.key } ∧
      ∀ actions later, (machine hasher).run middle actions = some later →
        (∀ action ∈ actions, action.settles { live with removed := true } = false) →
        ∃ final, later.step hasher (.finalizeRelease live.serial) = some final ∧
          final.registry = later.registry.releaseLease live.lease ∧
          final.registry.entries.lookup live.lease.key = none ∧
          live.lease.key ∉ final.registry.purgeLeases
  abandoned : ∀ live ∈ world.leases, live.removed = false →
    ∀ action, action = .restorePurge live.serial ∨ action = .dropLease live.serial →
    ∃ final, world.step hasher action = some final ∧
      final.registry.entries = world.registry.entries ∧
      live.lease.key ∉ final.registry.purgeLeases

/-- Purge isolation: a pending boundary and an open lease exclude each other,
a leased entry keeps every field until its lease is settled, finalizing removes
exactly the captured version, and abandoning a lease changes no entry. -/
theorem purge_isolation {hasher : RegistryKey → Nat → Nat} {world : World}
    (reachable : Reachable hasher world) : PurgeIsolated hasher world := by
  have invariant := reachable.leaseInvariant
  refine
    { exclusive := invariant.exclusive
      untouched := ?_
      finalized := ?_
      abandoned := ?_ }
  · intro generation stateKey featureKeyRaw providerKind registry lease actions final prepared
      reached waits
    obtain ⟨-, unpending, resident, unleased, -, rfl⟩ :=
      world.registry.preparePurge_reserved prepared
    obtain ⟨next, step, onward⟩ := (machine hasher).run_cons_eq_some.mp reached
    simp only [machine, World.step, prepared, Option.some.injEq] at step
    subst step
    obtain ⟨after, member⟩ := (invariant.prepared lease unpending resident unleased).keeps_run
      List.mem_cons_self onward waits
    exact ⟨member, (after.captured _ member rfl).trans resident.symm, resident⟩
  · intro live member open_
    have resident := invariant.captured live member open_
    have step := invariant.finalize_step hasher member open_
    have middle := invariant.moved (step_moved step)
    refine ⟨resident, by rw [world.registry.finalizeRemove_captured resident], _, step, rfl, ?_⟩
    intro actions later reached waits
    have marked : { live with removed := true } ∈ world.markRemoved live.serial :=
      List.mem_map.mpr ⟨live, member, if_pos rfl⟩
    obtain ⟨after, kept⟩ := middle.keeps_run marked reached waits
    refine ⟨_, after.release_step kept (.inl ⟨rfl, rfl⟩), rfl, ?_, ?_⟩
    · exact after.gone ⟨live.serial, live.lease, true⟩ kept rfl
    · simp [LearnedCapabilityRegistry.releaseLease]
  · intro live member open_ action kind
    exact ⟨_, invariant.release_step member (.inr ⟨open_, kind⟩), rfl,
      by simp [LearnedCapabilityRegistry.releaseLease]⟩

/-- A negative is learned and its purge reserved. -/
def leasing : List Action :=
  [.call ⟨1, "lane", "web_search", "openai-compat",
      .observe .selfIdentifying .f1 .live none 7⟩,
    .preparePurge 1 "lane" "web_search" "openai-compat"]

/-- One learned negative under one open lease. -/
theorem purge_isolation_leased :
    ∃ world, (machine fun _ _ => 0).run (initial 48 1 1024) leasing = some world ∧
      world.leases.map (fun live => live.removed) = [false] ∧
        PurgeIsolated (fun _ _ => 0) world := by
  obtain ⟨world, reached⟩ := Option.isSome_iff_exists.mp
    (by decide : ((machine fun _ _ => 0).run (initial 48 1 1024) leasing).isSome = true)
  have unsettled : ((machine fun _ _ => 0).run (initial 48 1 1024) leasing).map
      (fun world => world.leases.map fun live => live.removed) = some [false] := by decide
  rw [reached] at unsettled
  exact ⟨world, reached, Option.some.inj unsettled, purge_isolation ⟨48, 1, 1024, _, reached⟩⟩

end World
end Routectl.Registry
