import Routectl.Registry.World

/-! The incarnation counter: every accepted mutation takes the next number and
leaves it on the entry it touched. -/
namespace Routectl.Registry
open Routectl.Core Library

/-- What an accepted mutation returns to stamp its event with. -/
structure EventStamp where
  generation : Nat
  incarnation : Nat
deriving Repr, DecidableEq

def GenerationOutcome.stamp {α : Type} : GenerationOutcome α → Option EventStamp
  | .applied _ incarnation generation => some { generation, incarnation }
  | .stale | .exhausted | .reserved => none

/-- What a guarded call hands its caller to stamp an event with. -/
def GuardedCall.stamp (call : GuardedCall) (registry : LearnedCapabilityRegistry) :
    Option EventStamp :=
  let ⟨generation, stateKey, featureKeyRaw, providerKind, op⟩ := call
  match op with
  | .observe tier phase source evidence now =>
    (registry.observeInGeneration generation stateKey featureKeyRaw providerKind tier phase source
      evidence now).2.stamp
  | .observePositive source evidence now =>
    (registry.observePositiveInGeneration generation stateKey featureKeyRaw providerKind source
      evidence now).2.stamp
  | .expireKeyed now =>
    (registry.expireKeyedInGeneration generation stateKey featureKeyRaw providerKind now).2.stamp
  | .removeKeyed =>
    (registry.removeKeyedInGeneration generation stateKey featureKeyRaw providerKind).2.stamp
  | .negativeState _ | .isVerifiedWorking | .fieldActingFacts _ => none

/-- The mutation an action makes, by key and stamp. -/
def World.mutation (hasher : RegistryKey → Nat → Nat) (world : World) :
    Action → Option (RegistryKey × EventStamp)
  | .call call => (call.stamp world.registry).map fun stamp => (call.key, stamp)
  | .settle position outcome now =>
    match world.held[position]? with
    | none => none
    | some admission =>
      (settleAdmission hasher world.registry admission outcome now).2.stamp.map fun stamp =>
        (admission.key, stamp)
  | _ => none

def PurgePreparation.isReserved : PurgePreparation → Bool
  | .reserved _ => true
  | .absent | .busy | .stale => false

/-- Numbers only grow, and an entry carries the number it had or the fresh one. -/
structure Advances (before after : LearnedCapabilityRegistry) : Prop where
  counter : before.nextIncarnation ≤ after.nextIncarnation
  slots : ∀ key entry, after.entries.lookup key = some entry →
    (∃ prior, before.entries.lookup key = some prior ∧ prior.incarnation = entry.incarnation) ∨
      (entry.incarnation = before.nextIncarnation + 1 ∧
        after.nextIncarnation = before.nextIncarnation + 1)

/-- The same of an entry's whole content: what is left is an earlier entry, its
re-probe claim apart, or carries the fresh number. -/
structure Retains (before after : LearnedCapabilityRegistry) : Prop where
  counter : before.nextIncarnation ≤ after.nextIncarnation
  slots : ∀ key entry, after.entries.lookup key = some entry →
    (∃ prior, before.entries.lookup key = some prior ∧
      entry = { prior with inFlight := entry.inFlight }) ∨
      (entry.incarnation = before.nextIncarnation + 1 ∧
        after.nextIncarnation = before.nextIncarnation + 1)

theorem Retains.of_lookup {before after : LearnedCapabilityRegistry}
    (counter : after.nextIncarnation = before.nextIncarnation)
    (kept : ∀ key entry, after.entries.lookup key = some entry →
      before.entries.lookup key = some entry) : Retains before after where
  counter := counter.ge
  slots := fun key entry resident => .inl ⟨entry, kept key entry resident, rfl⟩

theorem Retains.advances {before after : LearnedCapabilityRegistry} (retains : Retains before after) :
    Advances before after where
  counter := retains.counter
  slots := fun key entry resident =>
    (retains.slots key entry resident).imp_left fun ⟨prior, earlier, same⟩ =>
      ⟨prior, earlier, (congrArg LearnedEntry.incarnation same).symm⟩

/-- What a stamped mutation of `key` did to the counter and to its slot. -/
structure Stamped (before after : LearnedCapabilityRegistry) (key : RegistryKey)
    (stamp : EventStamp) : Prop where
  fresh : stamp.incarnation = before.nextIncarnation + 1
  counter : after.nextIncarnation = before.nextIncarnation + 1
  slot : ∀ entry, after.entries.lookup key = some entry → entry.incarnation = stamp.incarnation

namespace GuardedStep
variable {registry after : LearnedCapabilityRegistry} {key : RegistryKey} {intent : Intent}
  {effect : Option LearnedEntry → Option LearnedEntry}

theorem retains (step : GuardedStep registry key effect intent after)
    (reads : intent = .read → ∀ slot entry, effect slot = some entry →
      ∃ prior, slot = some prior ∧ entry = { prior with inFlight := entry.inFlight }) :
    Retains registry after := by
  have framed {entries : Entries} (frame : Frame registry.purgeLeases key registry.entries entries)
      {other : RegistryKey} (different : other ≠ key) {entry : LearnedEntry}
      (resident : entries.lookup other = some entry) : registry.entries.lookup other = some entry := by
    rcases frame other different with same | ⟨gone, -⟩
    · rw [← same]
      exact resident
    · rw [gone] at resident
      cases resident
  cases step with
  | refused => exact .of_lookup rfl fun _ _ resident => resident
  | exhausted full count => exact .of_lookup rfl fun _ _ resident => resident
  | mutated entries unleased room slot frame =>
    constructor
    · exact Nat.le_succ _
    · intro other entry resident
      by_cases same : other = key
      · right
        subst same
        rw [slot] at resident
        obtain ⟨prior, -, rfl⟩ := Option.map_eq_some_iff.mp resident
        exact ⟨rfl, rfl⟩
      · exact .inl ⟨entry, framed frame same resident, rfl⟩
  | read entries unleased slot frame =>
    constructor
    · exact Nat.le_refl _
    · intro other entry resident
      left
      by_cases same : other = key
      · subst same
        rw [slot] at resident
        exact reads rfl _ entry resident
      · exact ⟨entry, framed frame same resident, rfl⟩

end GuardedStep

theorem GuardedOp.effect_read {op : GuardedOp} (reads : op.intent = .read)
    (tuning : RegistryTuning) (slot : Option LearnedEntry) : op.effect tuning slot = slot := by
  cases op with
  | observe tier phase source evidence now => cases reads
  | observePositive source evidence now => cases reads
  | expireKeyed now => cases reads
  | removeKeyed => cases reads
  | negativeState now => rfl
  | isVerifiedWorking => rfl
  | fieldActingFacts now => rfl

theorem claimSlot_retains {slot : Option LearnedEntry} {now : Nat} {entry : LearnedEntry}
    (claimed : claimSlot slot now = some entry) :
    ∃ prior, slot = some prior ∧ entry = { prior with inFlight := entry.inFlight } := by
  obtain ⟨prior, same, rfl⟩ := Option.map_eq_some_iff.mp claimed
  refine ⟨prior, same, ?_⟩
  split <;> rfl

section Stamps
variable {registry : LearnedCapabilityRegistry} {stamp : EventStamp}

theorem LearnedCapabilityRegistry.guardedKeyed_stamped {generation : Nat} {key : RegistryKey}
    {featureKey : String} {α : Type} {op : Entries → Leases → Entries × α}
    (returned : (registry.guardedKeyed generation key .mutate featureKey op).2.stamp = some stamp) :
    Stamped registry (registry.guardedKeyed generation key .mutate featureKey op).1 key stamp := by
  cases admitted : registry.admits generation featureKey with
  | false =>
    rw [guardedKeyed_stale admitted] at returned
    cases returned
  | true =>
    by_cases leased : key ∈ registry.purgeLeases
    · rw [guardedKeyed_reserved admitted leased] at returned
      cases returned
    · rcases Nat.lt_or_ge registry.nextIncarnation u64Max with room | full
      · rw [guardedKeyed_mutate admitted leased room] at returned ⊢
        obtain rfl := Option.some.inj returned
        refine ⟨rfl, rfl, ?_⟩
        intro entry resident
        rw [KeyedMap.lookup_modify_self] at resident
        obtain ⟨prior, -, rfl⟩ := Option.map_eq_some_iff.mp resident
        rfl
      · rw [guardedKeyed_exhausted admitted leased full] at returned
        cases returned

theorem GuardedCall.stamped {call : GuardedCall} (returned : call.stamp registry = some stamp) :
    Stamped registry (call.apply registry) call.key stamp := by
  obtain ⟨generation, stateKey, featureKeyRaw, providerKind, op⟩ := call
  cases op with
  | observe tier phase source evidence now =>
    exact LearnedCapabilityRegistry.guardedKeyed_stamped returned
  | observePositive source evidence now =>
    exact LearnedCapabilityRegistry.guardedKeyed_stamped returned
  | negativeState now => cases returned
  | isVerifiedWorking => cases returned
  | fieldActingFacts now => cases returned
  | expireKeyed now => exact LearnedCapabilityRegistry.guardedKeyed_stamped returned
  | removeKeyed => exact LearnedCapabilityRegistry.guardedKeyed_stamped returned

theorem settleAdmission_stamped {hasher : RegistryKey → Nat → Nat} {admission : ProbeAdmission}
    {outcome : ProbeOutcome} {now : Nat}
    (returned : (settleAdmission hasher registry admission outcome now).2.stamp = some stamp) :
    Stamped registry (settleAdmission hasher registry admission outcome now).1 admission.key stamp := by
  simp only [settleAdmission, LearnedCapabilityRegistry.recordProbeOutcomeInGeneration,
    LearnedCapabilityRegistry.guardedFor, ProbeAdmission.makeKey_eq] at returned ⊢
  exact LearnedCapabilityRegistry.guardedKeyed_stamped returned

end Stamps

namespace World
variable {hasher : RegistryKey → Nat → Nat} {world next : World} {action : Action}

theorem step_retains (step : world.step hasher action = some next) :
    Retains world.registry next.registry := by
  cases step_moved step with
  | called call registry guarded =>
    exact guarded.retains fun reads slot entry left => by
      rw [GuardedOp.effect_read reads] at left
      exact ⟨entry, left, rfl⟩
  | looked registry guarded => exact guarded.retains fun _ slot entry left => ⟨entry, left, rfl⟩
  | claimed granted registry guarded =>
    exact guarded.retains fun _ slot entry left => claimSlot_retains left
  | settled admission present =>
    exact (settleAdmission_step hasher world.registry admission _ _).retains fun reads => by
      cases reads
  | unprepared => exact .of_lookup rfl fun _ _ resident => resident
  | prepared lease key unpending resident unleased => exact .of_lookup rfl fun _ _ kept => kept
  | removed live found open_ =>
    refine .of_lookup ?_ ?_
    · unfold LearnedCapabilityRegistry.finalizeRemove
      split
      · split <;> rfl
      · rfl
    · intro key entry resident
      unfold LearnedCapabilityRegistry.finalizeRemove at resident
      split at resident
      · split at resident
        · by_cases same : key = live.lease.key
          · subst same
            simp [AList.lookup_erase] at resident
          · rw [AList.lookup_erase_ne same] at resident
            exact resident
        · exact resident
      · exact resident
  | released live found kind => exact .of_lookup rfl fun _ _ resident => resident
  | uncut => exact .of_lookup rfl fun _ _ resident => resident
  | cut receipt unpending unleased derived => exact .of_lookup rfl fun _ _ resident => resident
  | stale receipt other kind => exact .of_lookup rfl fun _ _ resident => resident
  | regressed pending still => exact .of_lookup rfl fun _ _ resident => resident
  | committed pending advances =>
    refine .of_lookup rfl ?_
    intro key entry resident
    rw [KeyedMap.lookup_retain] at resident
    split at resident
    · exact resident
    · cases resident
  | rolledBack pending => exact .of_lookup rfl fun _ _ resident => resident
  | retuned tuning => exact .of_lookup rfl fun _ _ resident => resident
  | rehashed entries permuted =>
    refine .of_lookup rfl ?_
    intro key entry resident
    rw [← AList.perm_lookup permuted]
    exact resident

theorem step_advances (step : world.step hasher action = some next) :
    Advances world.registry next.registry := (step_retains step).advances

theorem mutation_stamped {key : RegistryKey} {stamp : EventStamp}
    (mutates : world.mutation hasher action = some (key, stamp))
    (step : world.step hasher action = some next) :
    Stamped world.registry next.registry key stamp := by
  unfold mutation at mutates
  split at mutates
  · rename_i call
    obtain ⟨returned, stamped, same⟩ := Option.map_eq_some_iff.mp mutates
    cases same
    cases step
    exact call.stamped stamped
  · rename_i position outcome now
    split at mutates
    · cases mutates
    · rename_i admission present
      obtain ⟨returned, stamped, same⟩ := Option.map_eq_some_iff.mp mutates
      cases same
      simp only [World.step, present] at step
      cases step
      exact settleAdmission_stamped stamped
  · cases mutates

/-- A preparation either opens a lease on a resident entry or changes nothing. -/
theorem step_preparePurge {generation : Nat} {stateKey featureKeyRaw providerKind : String}
    (step : world.step hasher (.preparePurge generation stateKey featureKeyRaw providerKind) =
      some next) :
    next = world ∨ ∃ lease,
      (world.registry.preparePurge generation stateKey featureKeyRaw providerKind).2 =
        .reserved lease ∧
      world.registry.entries.lookup lease.key = some lease.captured ∧
      lease.key = makeKey stateKey featureKeyRaw providerKind ∧
      next.leases = ⟨world.nextSerial, lease, false⟩ :: world.leases := by
  simp only [World.step] at step
  split at step
  · rename_i registry lease prepared
    obtain rfl := Option.some.inj step
    obtain ⟨key, -, resident, -, -, -⟩ := world.registry.preparePurge_reserved prepared
    right
    exact ⟨lease, by rw [prepared], resident, key, rfl⟩
  · rename_i registry preparation refused same
    obtain rfl := Option.some.inj step
    left
    have kept := world.registry.preparePurge_refused generation stateKey featureKeyRaw
      providerKind fun lease reserved => refused lease (by
        rw [same] at reserved
        exact reserved)
    rw [same] at kept
    dsimp only at kept
    rw [kept]

/-- A lease is one already open or the capture of a resident entry. -/
theorem step_leases (step : world.step hasher action = some next) :
    ∀ live ∈ next.leases, (∃ prior ∈ world.leases, prior.lease = live.lease) ∨
      ∃ generation stateKey featureKeyRaw providerKind,
        action = .preparePurge generation stateKey featureKeyRaw providerKind ∧
        (world.registry.preparePurge generation stateKey featureKeyRaw providerKind).2 =
          .reserved live.lease ∧
        world.registry.entries.lookup live.lease.key = some live.lease.captured ∧
        live.lease.key = makeKey stateKey featureKeyRaw providerKind := by
  have same (live : LiveLease) (member : live ∈ world.leases) :
      ∃ prior ∈ world.leases, prior.lease = live.lease := ⟨live, member, rfl⟩
  by_cases prepares : ∃ generation stateKey featureKeyRaw providerKind,
      action = .preparePurge generation stateKey featureKeyRaw providerKind
  · obtain ⟨generation, stateKey, featureKeyRaw, providerKind, rfl⟩ := prepares
    intro live member
    rcases step_preparePurge step with kept | ⟨lease, reserved, resident, key, leases⟩
    · rw [kept] at member
      exact .inl (same live member)
    · rw [leases] at member
      rcases List.mem_cons.mp member with opened | older
      · subst opened
        exact .inr ⟨_, _, _, _, rfl, reserved, resident, key⟩
      · exact .inl (same live older)
  · intro live member
    left
    cases step_moved step with
    | unprepared => exact absurd ⟨_, _, _, _, rfl⟩ prepares
    | prepared lease key unpending resident unleased => exact absurd ⟨_, _, _, _, rfl⟩ prepares
    | removed other found open_ =>
      obtain ⟨prior, present, rfl⟩ := List.mem_map.mp member
      refine ⟨prior, present, ?_⟩
      split <;> rfl
    | released other found kind => exact same live (List.mem_filter.mp member).1
    | called call registry guarded => exact same live member
    | looked registry guarded => exact same live member
    | claimed granted registry guarded => exact same live member
    | settled admission present => exact same live member
    | uncut => exact same live member
    | cut receipt unpending unleased derived => exact same live member
    | stale receipt other kind => exact same live member
    | regressed pending still => exact same live member
    | committed pending advances => exact same live member
    | rolledBack pending => exact same live member
    | retuned tuning => exact same live member
    | rehashed entries permuted => exact same live member

end World

/-! What a number says of an entry: nothing is numbered past the counter, so an entry
that bears an earlier number has been there since. -/

/-- No resident entry is numbered above the counter. -/
def LearnedCapabilityRegistry.Numbered (registry : LearnedCapabilityRegistry) : Prop :=
  ∀ key entry, registry.entries.lookup key = some entry →
    entry.incarnation ≤ registry.nextIncarnation

/-- Across any stretch of a run an entry either was there before, its re-probe claim
apart, or is numbered past everything that was. -/
structure Continues (before after : LearnedCapabilityRegistry) : Prop where
  counter : before.nextIncarnation ≤ after.nextIncarnation
  slots : ∀ key entry, after.entries.lookup key = some entry →
    (∃ prior, before.entries.lookup key = some prior ∧
      entry = { prior with inFlight := entry.inFlight }) ∨
      before.nextIncarnation < entry.incarnation

section Numbers
variable {registry before middle after : LearnedCapabilityRegistry}

theorem Continues.refl (registry : LearnedCapabilityRegistry) : Continues registry registry where
  counter := Nat.le_refl _
  slots := fun _ entry resident => .inl ⟨entry, resident, rfl⟩

theorem Continues.trans (first : Continues before middle) (second : Continues middle after) :
    Continues before after := by
  refine ⟨first.counter.trans second.counter, ?_⟩
  intro key entry resident
  rcases second.slots key entry resident with ⟨prior, earlier, same⟩ | newer
  · have numbered : entry.incarnation = prior.incarnation := by rw [same]
    rcases first.slots key prior earlier with ⟨older, oldest, alike⟩ | newer
    · left
      refine ⟨older, oldest, ?_⟩
      rw [same, alike]
    · right
      rw [numbered]
      exact newer
  · exact .inr (first.counter.trans_lt newer)

theorem Retains.continues (retains : Retains before after) : Continues before after where
  counter := retains.counter
  slots := fun key entry resident => (retains.slots key entry resident).imp_right fun fresh => by
    rw [fresh.1]
    exact Nat.lt_succ_self _

theorem LearnedCapabilityRegistry.Numbered.retains (numbered : before.Numbered)
    (retains : Retains before after) : after.Numbered := by
  intro key entry resident
  rcases retains.slots key entry resident with ⟨prior, earlier, same⟩ | ⟨fresh, counter⟩
  · have kept : entry.incarnation = prior.incarnation := by rw [same]
    rw [kept]
    exact (numbered key prior earlier).trans retains.counter
  · rw [fresh, counter]

/-- Replayed admissions number nothing, so a slot keeps its number or has zero. -/
theorem LearnedCapabilityRegistry.Numbered.replayed (numbered : registry.Numbered)
    {key : RegistryKey} {entries : Entries}
    (frame : Frame registry.purgeLeases key registry.entries entries)
    (slot : ∀ entry, entries.lookup key = some entry →
      entry.incarnation ≤ registry.nextIncarnation) :
    LearnedCapabilityRegistry.Numbered { registry with entries } := by
  intro other entry resident
  by_cases own : other = key
  · subst own
    exact slot entry resident
  · rcases frame other own with same | ⟨gone, -⟩
    · rw [same] at resident
      exact numbered other entry resident
    · rw [gone] at resident
      cases resident

theorem observeExisting_incarnation (tuning : RegistryTuning) (entry : LearnedEntry)
    (tier : SignalTier) (now : Nat) :
    (observeExisting tuning entry tier now).1.incarnation = entry.incarnation := by
  unfold observeExisting
  split
  · cases tier <;> rfl
  · cases tier with
    | selfIdentifying => rfl
    | inferred =>
      dsimp only
      split <;> rfl

theorem observeSlot_numbered {tuning : RegistryTuning} {slot : Option LearnedEntry} {bound : Nat}
    (below : ∀ prior, slot = some prior → prior.incarnation ≤ bound) (tier : SignalTier)
    (phase : FailurePhase) (source : EvidenceSource) (evidence : Option String) (now : Nat) :
    (observeSlot tuning slot tier phase source evidence now).1.incarnation ≤ bound := by
  cases slot with
  | none => exact Nat.zero_le _
  | some prior =>
    cases verdict : prior.verdict with
    | negative =>
      rw [observeSlot_negative verdict]
      rw [observeExisting_incarnation]
      exact below prior rfl
    | verified =>
      rw [observeSlot_verified verdict]
      cases tier with
      | selfIdentifying => exact Nat.zero_le _
      | inferred => exact below prior rfl

theorem positiveSlot_numbered {slot : Option LearnedEntry} {bound : Nat}
    (below : ∀ prior, slot = some prior → prior.incarnation ≤ bound) (source : EvidenceSource)
    (evidence : Option String) (now : Nat) :
    (positiveSlot slot source evidence now).incarnation ≤ bound := by
  cases slot with
  | none => exact Nat.zero_le _
  | some prior =>
    cases verdict : prior.verdict with
    | negative =>
      rw [positiveSlot_negative verdict]
      exact below prior rfl
    | verified =>
      rw [positiveSlot_verified verdict]
      exact below prior rfl

end Numbers

end Routectl.Registry
