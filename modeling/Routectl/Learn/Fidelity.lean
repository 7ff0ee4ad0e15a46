import Routectl.Learn.Session
import Routectl.Ledger.Replay

/-! The live registry beside the registry its emitted rows rebuild: what every
registry access of a request does to the two sides of one key. -/
namespace Routectl.Learn
open Routectl.Core Library Registry Ledger

/-- The side a slot is on, and whether it acts. -/
abbrev Status := EntryVerdict × Bool

def entryStatus (entry : LearnedEntry) : Status := (entry.verdict, entry.isActing)

def status (registry : LearnedCapabilityRegistry) (key : RegistryKey) : Option Status :=
  (registry.entries.lookup key).map entryStatus

def acts (registry : LearnedCapabilityRegistry) (key : RegistryKey) : Bool :=
  (registry.entries.lookup key).any LearnedEntry.isActing

theorem acts_eq (registry : LearnedCapabilityRegistry) (key : RegistryKey) :
    acts registry key = (status registry key).any Prod.snd := by
  unfold acts status
  cases registry.entries.lookup key <;> rfl

theorem status_eq_none {registry : LearnedCapabilityRegistry} {key : RegistryKey} :
    status registry key = none ↔ registry.entries.lookup key = none := Option.map_eq_none_iff

/-- A registry no boundary and no purge is working on. -/
structure Quiet (registry : LearnedCapabilityRegistry) : Prop where
  pending : registry.pendingGeneration = none
  leases : registry.purgeLeases = ∅

theorem Quiet.admits {registry : LearnedCapabilityRegistry} (featureKey : String) :
    registry.admits registry.generation featureKey = true := by
  simp [LearnedCapabilityRegistry.admits]

/-- Only `key` changes, to a slot of the given status. -/
structure Touches (before after : LearnedCapabilityRegistry) (key : RegistryKey)
    (slot : Option Status) : Prop where
  tuning : after.tuning = before.tuning
  pending : after.pendingGeneration = before.pendingGeneration
  leases : after.purgeLeases = before.purgeLeases
  own : status after key = slot
  others : ∀ other, other ≠ key → status after other = status before other

section Touching
variable {registry after : LearnedCapabilityRegistry} {key : RegistryKey} {slot : Option Status}

theorem Touches.same (registry : LearnedCapabilityRegistry) (key : RegistryKey) :
    Touches registry registry key (status registry key) where
  tuning := rfl
  pending := rfl
  leases := rfl
  own := rfl
  others := fun _ _ => rfl

theorem Touches.quiet (touches : Touches registry after key slot) (quiet : Quiet registry) :
    Quiet after where
  pending := touches.pending.trans quiet.pending
  leases := touches.leases.trans quiet.leases

theorem Touches.covered (touches : Touches registry after key slot)
    (present : slot = none ∨ registry.entries.lookup key ≠ none) (other : RegistryKey)
    (resident : after.entries.lookup other ≠ none) : registry.entries.lookup other ≠ none := by
  by_cases same : other = key
  · subst same
    rcases present with empty | held
    · exact absurd (status_eq_none.mp (touches.own.trans empty)) resident
    · exact held
  · intro missing
    have kept := touches.others other same
    rw [status_eq_none.mpr missing] at kept
    exact resident (status_eq_none.mp kept)

/-- A registry that had room stays inside its capacity. -/
theorem Touches.size (touches : Touches registry after key slot)
    (room : slot = none ∨ HasRoom registry key)
    (bounded : registry.entries.entries.length ≤ max registry.tuning.maxEntries 1) :
    after.entries.entries.length ≤ max after.tuning.maxEntries 1 := by
  rw [touches.tuning]
  by_cases missing : registry.entries.lookup key = none
  · rcases room with empty | present | space
    · exact (KeyedMap.length_le_of_covers (touches.covered (.inl empty))).trans bounded
    · exact absurd missing present
    · have covers : ∀ other, other ≠ key → after.entries.lookup other ≠ none →
          registry.entries.lookup other ≠ none := by
        intro other different resident absent
        have kept := touches.others other different
        rw [status_eq_none.mpr absent] at kept
        exact resident (status_eq_none.mp kept)
      exact (KeyedMap.length_le_succ key covers).trans space
  · exact (KeyedMap.length_le_of_covers (touches.covered (.inr missing))).trans bounded

section Guarded
variable (registry key) {α : Type} (generation : Nat) (intent : Intent) (featureKey : String)
  (op : Entries → Leases → Entries × α)

/-- Nothing refuses a guarded call. -/
def Accepted : Prop :=
  registry.admits generation featureKey = true ∧ key ∉ registry.purgeLeases ∧
    (intent = .mutate → registry.nextIncarnation < u64Max)

variable {registry key generation intent featureKey}

theorem refused_touches (refused : ¬Accepted registry key generation intent featureKey) :
    Touches registry (registry.guardedKeyed generation key intent featureKey op).1 key
      (status registry key) := by
  cases admitted : registry.admits generation featureKey with
  | false =>
    rw [LearnedCapabilityRegistry.guardedKeyed_stale admitted]
    exact .same registry key
  | true =>
    by_cases leased : key ∈ registry.purgeLeases
    · rw [LearnedCapabilityRegistry.guardedKeyed_reserved admitted leased]
      exact .same registry key
    · cases intent with
      | read => exact absurd ⟨admitted, leased, by simp⟩ refused
      | mutate =>
        have full : u64Max ≤ registry.nextIncarnation :=
          Nat.not_lt.mp fun room => refused ⟨admitted, leased, fun _ => room⟩
        rw [LearnedCapabilityRegistry.guardedKeyed_exhausted admitted leased full]
        exact ⟨rfl, rfl, rfl, rfl, fun _ _ => rfl⟩

/-- An accepted call does what its operation does; the stamp shows on no side. -/
theorem accepted_touches (accepted : Accepted registry key generation intent featureKey)
    (others : ∀ other, other ≠ key →
      (op registry.entries registry.purgeLeases).1.lookup other = registry.entries.lookup other) :
    Touches registry (registry.guardedKeyed generation key intent featureKey op).1 key
      (((op registry.entries registry.purgeLeases).1.lookup key).map entryStatus) := by
  obtain ⟨admitted, unleased, room⟩ := accepted
  have kept (entries : Entries)
      (framed : ∀ other, other ≠ key → entries.lookup other = registry.entries.lookup other)
      (other : RegistryKey) (different : other ≠ key) :
      (entries.lookup other).map entryStatus = status registry other := by
    rw [framed other different]
    rfl
  cases intent with
  | read =>
    obtain ⟨incarnation, same⟩ :=
      LearnedCapabilityRegistry.guardedKeyed_read op admitted unleased
    rw [same]
    exact ⟨rfl, rfl, rfl, rfl, kept _ others⟩
  | mutate =>
    rw [LearnedCapabilityRegistry.guardedKeyed_mutate admitted unleased (room rfl)]
    refine ⟨rfl, rfl, rfl, ?_, kept _ ?_⟩
    · unfold status
      rw [KeyedMap.lookup_modify_self, Option.map_map]
      rfl
    · intro other different
      rw [KeyedMap.lookup_modify_ne different]
      exact others other different

end Guarded
end Touching

section Accesses
variable {hasher : RegistryKey → Nat → Nat} {registry : LearnedCapabilityRegistry}

/-- Claiming a re-probe moves nothing across a side. -/
theorem looked_touches (stateKey featureKeyRaw providerKind : String) (generation now : Nat) :
    Touches registry
      (registry.actingNegativeInGeneration generation stateKey featureKeyRaw providerKind now).1
      (makeKey stateKey featureKeyRaw providerKind)
      (status registry (makeKey stateKey featureKeyRaw providerKind)) := by
  by_cases accepted : Accepted registry (makeKey stateKey featureKeyRaw providerKind) generation
    .read featureKeyRaw
  · have touches := accepted_touches
      (fun entries _ =>
        actingNegativeForIn entries (makeKey stateKey featureKeyRaw providerKind) now)
      accepted fun other different => actingNegativeForIn_others different now
    rw [(actingNegativeForIn_spec registry.entries registry.purgeLeases _ now).1] at touches
    have unmoved : (claimSlot (registry.entries.lookup
        (makeKey stateKey featureKeyRaw providerKind)) now).map entryStatus =
          status registry (makeKey stateKey featureKeyRaw providerKind) := by
      unfold status claimSlot
      cases registry.entries.lookup (makeKey stateKey featureKeyRaw providerKind) with
      | none => rfl
      | some entry =>
        dsimp only [Option.map_some]
        split <;> rfl
    exact unmoved ▸ touches
  · have touches := refused_touches
      (fun entries _ =>
        actingNegativeForIn entries (makeKey stateKey featureKeyRaw providerKind) now) accepted
    exact touches

theorem settled_touches {admission : ProbeAdmission}
    (accepted : SettlementAccepted registry admission) (outcome : ProbeOutcome) (now : Nat) :
    Touches registry (settleAdmission hasher registry admission outcome now).1 admission.key
      ((settleSlot registry.tuning hasher admission.key (registry.entries.lookup admission.key)
        outcome now).map entryStatus) := by
  rw [← (recordProbeOutcomeIn_spec registry.purgeLeases hasher outcome now).1]
  simp only [settleAdmission, LearnedCapabilityRegistry.recordProbeOutcomeInGeneration,
    LearnedCapabilityRegistry.guardedFor, ProbeAdmission.makeKey_eq]
  exact accepted_touches _ ⟨accepted.1, accepted.2.1, fun _ => accepted.2.2⟩
    fun other different => recordProbeOutcomeIn_others different hasher outcome now

theorem unsettled_touches {admission : ProbeAdmission}
    (refused : ¬SettlementAccepted registry admission) (outcome : ProbeOutcome) (now : Nat) :
    Touches registry (settleAdmission hasher registry admission outcome now).1 admission.key
      (status registry admission.key) := by
  simp only [settleAdmission, LearnedCapabilityRegistry.recordProbeOutcomeInGeneration,
    LearnedCapabilityRegistry.guardedFor, ProbeAdmission.makeKey_eq]
  exact refused_touches _ fun accepted =>
    refused ⟨accepted.1, accepted.2.1, accepted.2.2 rfl⟩

/-- What a rejection observes in the slot of its key. -/
def rejectedSlot (registry : LearnedCapabilityRegistry) (rejection : Rejection) (now : Nat) :
    LearnedEntry × ObserveOutcome :=
  observeSlot registry.tuning (registry.entries.lookup rejection.key) rejection.tier
    rejection.phase .live none now

/-- The row of a rejection that acts. -/
def rejectedRow (rejection : Rejection) (now : Nat) (revision : Revision) : CapabilityEvent :=
  { ts := now, laneKey := rejection.stateKey, capability := rejection.featureKey,
    verdict := (Verdict.learnedBroken rejection.phase).asStr, phase := rejection.phase.asStr,
    source := EvidenceSource.live.asStr, tier := rejection.tier.asStr, evidenceClass := none,
    revision }

def mintedRows (registry : LearnedCapabilityRegistry) (rejection : Rejection) (now : Nat)
    (revision : Revision) : List CapabilityEvent :=
  (mintedEvent rejection (observeRejection registry registry.generation rejection now).2).toList.map
    (learnedRow now revision)

section Observation
variable {rejection : Rejection} {now : Nat} {revision : Revision}

theorem observeIn_others (room : HasRoom registry rejection.key) (other : RegistryKey)
    (different : other ≠ rejection.key) :
    (observeIn registry.tuning registry.entries registry.purgeLeases rejection.key rejection.tier
      rejection.phase .live none now).1.lookup other = registry.entries.lookup other := by
  have replayed : Replayed registry (registry.observe rejection.stateKey rejection.featureKey
      rejection.providerKind rejection.tier rejection.phase .live none now).1 _ _ :=
    observe_replayed rejection.tier rejection.phase .live none now
  simp only [LearnedCapabilityRegistry.observe, Rejection.makeKey_eq] at replayed
  exact replayed.others room other different

theorem observed_touches (quiet : Quiet registry) (room : HasRoom registry rejection.key)
    (counter : registry.nextIncarnation < u64Max) :
    Touches registry (observeRejection registry registry.generation rejection now).1 rejection.key
        (some (entryStatus (rejectedSlot registry rejection now).1)) ∧
      mintedRows registry rejection now revision =
        if (rejectedSlot registry rejection now).2 = .acting then
          [rejectedRow rejection now revision]
        else [] := by
  have spec : _ ∧ _ ∧ Frame registry.purgeLeases rejection.key registry.entries
      (observeIn registry.tuning registry.entries registry.purgeLeases rejection.key rejection.tier
        rejection.phase .live none now).1 :=
    observeIn_spec rejection.tier rejection.phase .live none now
  obtain ⟨own, outcome, -⟩ := spec
  have unleased : rejection.key ∉ registry.purgeLeases := by simp [quiet.leases]
  have accepted : Accepted registry rejection.key registry.generation .mutate
      rejection.featureKey := ⟨Quiet.admits _, unleased, fun _ => counter⟩
  constructor
  · have touches := accepted_touches (observeBody registry rejection now) accepted
      (observeIn_others room)
    have slot : (observeBody registry rejection now registry.entries
        registry.purgeLeases).1.lookup rejection.key =
          some (rejectedSlot registry rejection now).1 := own
    rw [slot] at touches
    rw [observeRejection_eq]
    exact touches
  · unfold mintedRows
    rw [observeRejection_eq,
      LearnedCapabilityRegistry.guardedKeyed_mutate (Quiet.admits _) unleased counter]
    have value : (observeBody registry rejection now registry.entries
        registry.purgeLeases).2.1 = (rejectedSlot registry rejection now).2 := outcome
    rw [← value]
    cases observeBody registry rejection now registry.entries registry.purgeLeases with
    | mk after returned =>
      obtain ⟨outcome, observations⟩ := returned
      cases outcome with
      | pending => rfl
      | acting => rfl

theorem unobserved_touches (quiet : Quiet registry) (full : u64Max ≤ registry.nextIncarnation) :
    Touches registry (observeRejection registry registry.generation rejection now).1 rejection.key
        (status registry rejection.key) ∧
      mintedRows registry rejection now revision = [] := by
  have unleased : rejection.key ∉ registry.purgeLeases := by simp [quiet.leases]
  unfold mintedRows
  rw [observeRejection_eq,
    LearnedCapabilityRegistry.guardedKeyed_exhausted (Quiet.admits _) unleased full]
  exact ⟨⟨rfl, rfl, rfl, rfl, fun _ _ => rfl⟩, rfl⟩

end Observation
end Accesses

section Sides
variable {tuning : RegistryTuning} {entry : LearnedEntry} {tier : SignalTier}
  {phase : FailurePhase} {source : EvidenceSource} {evidence : Option String} {now : Nat}

theorem observeSlot_side {slot : Option LearnedEntry}
    (negative : ∀ entry, slot = some entry → entry.verdict = .negative) :
    (observeSlot tuning slot tier phase source evidence now).1.verdict = .negative := by
  cases slot with
  | none => rfl
  | some entry =>
    rw [observeSlot_negative (negative entry rfl), observeExisting_verdict]
    exact negative entry rfl

theorem observeSlot_fresh_acts :
    (observeSlot tuning none tier phase source evidence now).1.isActing = true ↔
      tier = .selfIdentifying := by
  cases tier <;> simp [observeSlot, freshEntry, LearnedEntry.isActing]

/-- An acting negative acts on, whatever is observed next. -/
theorem observeSlot_acting_acts (negative : entry.verdict = .negative)
    (acting : entry.isActing = true) :
    (observeSlot tuning (some entry) tier phase source evidence now).1.isActing = true := by
  rw [observeSlot_negative negative]
  have counted : 2 ≤ entry.observations → 2 ≤ saturatingSucc entry.observations := by
    simp only [saturatingSucc, u32Max]
    omega
  cases tier with
  | selfIdentifying => simp [observeExisting, LearnedEntry.isActing]
  | inferred =>
    simp only [observeExisting, acting, if_true]
    simp only [LearnedEntry.isActing, Bool.or_eq_true, decide_eq_true_eq] at acting ⊢
    exact acting.imp_right counted

theorem observeSlot_pending_acts (negative : entry.verdict = .negative)
    (pending : entry.isActing = false) :
    (observeSlot tuning (some entry) tier phase source evidence now).1.isActing = true ↔
      tier = .selfIdentifying ∨ now - entry.firstSeen ≤ tuning.inferredWindow := by
  rw [observeSlot_negative negative]
  cases tier with
  | selfIdentifying => simp [observeExisting, LearnedEntry.isActing]
  | inferred =>
    have signal : entry.signal = .inferred := by
      cases signal : entry.signal with
      | selfIdentifying => simp [LearnedEntry.isActing, signal] at pending
      | inferred => rfl
    by_cases inside : now - entry.firstSeen ≤ tuning.inferredWindow
    · rw [observeExisting_corroborates pending inside]
      exact iff_of_true (by simp [LearnedEntry.isActing]) (.inr inside)
    · rw [observeExisting_resets pending inside]
      exact iff_of_false (by simp [LearnedEntry.isActing, signal]) (by simp only [inside]; decide)

/-- On the negative side an observation reports acting as the entry it leaves. -/
theorem observeSlot_outcome {slot : Option LearnedEntry}
    (negative : ∀ entry, slot = some entry → entry.verdict = .negative) :
    (observeSlot tuning slot tier phase source evidence now).2 = .acting ↔
      (observeSlot tuning slot tier phase source evidence now).1.isActing = true := by
  cases slot with
  | none => exact freshEntry_acting_iff phase source evidence
  | some entry =>
    rw [observeSlot_negative (negative entry rfl)]
    exact observeExisting_acting_iff

end Sides

/-- Every entry the rows rebuild is a negative whose live entry acts, and the
rebuilt registry never runs out of room first. -/
structure Shadows (live rebuilt : LearnedCapabilityRegistry) : Prop where
  quiet : Quiet live
  capacity : max live.tuning.maxEntries 1 ≤ max rebuilt.tuning.maxEntries 1
  bounded : live.entries.entries.length ≤ max live.tuning.maxEntries 1
  negative : ∀ key side acting, status live key = some (side, acting) → side = .negative
  shadowed : ∀ key slot, status rebuilt key = some slot →
    slot.1 = .negative ∧ status live key = some (.negative, true)

/-- The two registries act on the same keys. -/
def Faithful (live rebuilt : LearnedCapabilityRegistry) : Prop :=
  ∀ key, acts live key = acts rebuilt key

section Shadowing
variable {live rebuilt after replayed : LearnedCapabilityRegistry} {key : RegistryKey}
  {slot image : Option Status}

theorem Shadows.acts_live (shadows : Shadows live rebuilt) (key : RegistryKey) :
    acts live key = true ↔ status live key = some (.negative, true) := by
  rw [acts_eq]
  cases held : status live key with
  | none => simp
  | some slot =>
    obtain ⟨side, acting⟩ := slot
    obtain rfl := shadows.negative key side acting held
    simp

theorem Shadows.acts_rebuilt (shadows : Shadows live rebuilt) (key : RegistryKey) :
    acts rebuilt key = true ↔ status rebuilt key = some (.negative, true) := by
  rw [acts_eq]
  cases held : status rebuilt key with
  | none => simp
  | some slot =>
    obtain ⟨side, acting⟩ := slot
    obtain ⟨rfl, -⟩ := shadows.shadowed key _ held
    simp

/-- Only the rebuilt side can fall behind. -/
theorem Shadows.faithful_iff (shadows : Shadows live rebuilt) :
    Faithful live rebuilt ↔
      ∀ key, status live key = some (.negative, true) → status rebuilt key = some (.negative, true) := by
  constructor
  · intro faithful key acting
    rw [← shadows.acts_rebuilt key, ← faithful key]
    exact (shadows.acts_live key).mpr acting
  · intro follows key
    apply Bool.eq_iff_iff.mpr
    rw [shadows.acts_live key, shadows.acts_rebuilt key]
    constructor
    · exact follows key
    · exact fun acting => (shadows.shadowed key _ acting).2

/-- Where the live side does not act, nothing is rebuilt. -/
theorem Shadows.unrebuilt (shadows : Shadows live rebuilt)
    (idle : status live key ≠ some (.negative, true)) : status rebuilt key = none := by
  cases held : status rebuilt key with
  | none => rfl
  | some slot => exact absurd (shadows.shadowed key slot held).2 idle

theorem Shadows.hasRoom (shadows : Shadows live rebuilt) (room : HasRoom live key) :
    HasRoom rebuilt key := by
  have covers : ∀ other, rebuilt.entries.lookup other ≠ none → live.entries.lookup other ≠ none := by
    intro other resident missing
    have idle : status live other ≠ some (.negative, true) := by simp [status_eq_none.mpr missing]
    exact resident (status_eq_none.mp (shadows.unrebuilt idle))
  have shorter := KeyedMap.length_le_of_covers covers
  by_cases missing : rebuilt.entries.lookup key = none
  · right
    have capacity := shadows.capacity
    rcases room with present | space
    · have strict : rebuilt.entries.entries.length < live.entries.keys.toFinset.card :=
        KeyedMap.length_lt_card
          (fun other resident =>
            List.mem_toFinset.mpr (KeyedMap.mem_keys_iff.mpr (covers other resident)))
          (List.mem_toFinset.mpr (KeyedMap.mem_keys_iff.mpr present)) missing
      have bounded := shadows.bounded
      rw [KeyedMap.card_keys] at strict
      omega
    · omega
  · exact .inl missing

/-- Both sides move on one key, and what is rebuilt there shadows what acts. -/
theorem Shadows.moved (shadows : Shadows live rebuilt) (touches : Touches live after key slot)
    (follows : Touches rebuilt replayed key image) (room : slot = none ∨ HasRoom live key)
    (negative : ∀ side acting, slot = some (side, acting) → side = .negative)
    (shadowed : ∀ held, image = some held → held.1 = .negative ∧ slot = some (.negative, true)) :
    Shadows after replayed where
  quiet := touches.quiet shadows.quiet
  capacity := by
    rw [touches.tuning, follows.tuning]
    exact shadows.capacity
  bounded := touches.size room shadows.bounded
  negative := by
    intro other side acting held
    by_cases same : other = key
    · subst same
      exact negative side acting (touches.own ▸ held)
    · exact shadows.negative other side acting (touches.others other same ▸ held)
  shadowed := by
    intro other held rebuilds
    by_cases same : other = key
    · subst same
      rw [touches.own]
      exact shadowed held (follows.own ▸ rebuilds)
    · rw [touches.others other same]
      exact shadows.shadowed other held (follows.others other same ▸ rebuilds)

/-- After such a move only the moved key can tell the two sides apart. -/
theorem Faithful.moved (faithful : Faithful live rebuilt) (shadows : Shadows live rebuilt)
    (touches : Touches live after key slot) (follows : Touches rebuilt replayed key image)
    (next : Shadows after replayed) :
    Faithful after replayed ↔ (slot = some (.negative, true) → image = some (.negative, true)) := by
  rw [next.faithful_iff]
  constructor
  · intro follows' acting
    rw [← follows.own]
    exact follows' key (touches.own.trans acting)
  · intro own other acting
    by_cases same : other = key
    · subst same
      rw [follows.own]
      exact own (touches.own ▸ acting)
    · rw [follows.others other same]
      rw [touches.others other same] at acting
      exact shadows.faithful_iff.mp faithful other acting

end Shadowing
end Routectl.Learn
