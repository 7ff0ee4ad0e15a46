import Mathlib.Data.Finset.Erase
import Routectl.Registry.Operations

/-! The registry and the generation-validated, lease-aware critical section
every per-key operation runs through. -/
namespace Routectl.Registry
open Routectl.Core Library

/-- The identity of one admitted boundary. The id is what a re-derived
generation number cannot forge. -/
structure BoundaryReceipt where
  generation : Nat
  id : Nat
deriving Repr, DecidableEq

structure LearnedCapabilityRegistry where
  entries : Entries
  tuning : RegistryTuning
  generation : Nat
  pendingGeneration : Option BoundaryReceipt
  nextReceiptId : Nat
  purgeLeases : Leases
  nextIncarnation : Nat
  exhaustedIncarnations : Nat

/-- Why a generation-validated call did nothing, or what it did. -/
inductive GenerationOutcome (α : Type) where
  | applied (value : α) (incarnation : Nat) (generation : Nat)
  | stale
  | exhausted
  | reserved
deriving Repr, DecidableEq

inductive Intent where
  | mutate
  | read
deriving Repr, DecidableEq

def makeKey (stateKey featureKeyRaw providerKind : String) : RegistryKey :=
  { stateKey, featureKey := normalizeCapabilityKey featureKeyRaw providerKind }

/-- A canonical feature key makes the key it came from. -/
@[simp] theorem makeKey_normalized (stateKey featureKeyRaw providerKind : String) :
    makeKey stateKey (normalizeCapabilityKey featureKeyRaw providerKind) providerKind =
      makeKey stateKey featureKeyRaw providerKind := by
  simp [makeKey]

def restamp (incarnation : Nat) (entry : LearnedEntry) : LearnedEntry := { entry with incarnation }

namespace LearnedCapabilityRegistry

def new (decay inferredWindow maxEntries : Nat) : LearnedCapabilityRegistry :=
  { entries := ∅, tuning := { decay, inferredWindow, maxEntries }, generation := 1,
    pendingGeneration := none, nextReceiptId := 1, purgeLeases := ∅, nextIncarnation := 0,
    exhaustedIncarnations := 0 }

/-- The generation an event produced now must carry to survive. -/
def effectivePersistenceGeneration (registry : LearnedCapabilityRegistry) : Nat :=
  match registry.pendingGeneration with
  | some receipt => receipt.generation
  | none => registry.generation

def admits (registry : LearnedCapabilityRegistry) (generation : Nat) (featureKey : String) : Bool :=
  !capabilityKeyIsCatalogScoped featureKey || generation = registry.generation ||
    registry.pendingGeneration.any fun receipt => receipt.generation = generation

def reserveIncarnation (registry : LearnedCapabilityRegistry) :
    LearnedCapabilityRegistry × Option Nat :=
  match checkedSucc registry.nextIncarnation with
  | none =>
    ({ registry with exhaustedIncarnations := (registry.exhaustedIncarnations + 1) % 2 ^ 64 }, none)
  | some allocated => ({ registry with nextIncarnation := allocated }, some allocated)

/-- One critical section: validation, the lease check, the incarnation
reservation and the operation are indivisible. -/
def guardedKeyed {α : Type} (registry : LearnedCapabilityRegistry) (generation : Nat)
    (key : RegistryKey) (intent : Intent) (featureKey : String)
    (op : Entries → Leases → Entries × α) : LearnedCapabilityRegistry × GenerationOutcome α :=
  if !registry.admits generation featureKey then (registry, .stale)
  else if key ∈ registry.purgeLeases then (registry, .reserved)
  else
    match intent with
    | .mutate =>
      match registry.reserveIncarnation with
      | (refused, none) => (refused, .exhausted)
      | (stamped, some reserved) =>
        let (entries, value) := op registry.entries registry.purgeLeases
        ({ stamped with entries := KeyedMap.modify key (restamp reserved) entries },
         .applied value reserved registry.effectivePersistenceGeneration)
    | .read =>
      let (entries, value) := op registry.entries registry.purgeLeases
      let incarnation :=
        match entries.lookup key with
        | none => 0
        | some entry => entry.incarnation
      ({ registry with entries },
       .applied value incarnation registry.effectivePersistenceGeneration)

section Api
variable (registry : LearnedCapabilityRegistry) (generation : Nat)
  (stateKey featureKeyRaw providerKind : String)

def guardedFor {α : Type} (op : Entries → Leases → Entries × α) :
    LearnedCapabilityRegistry × GenerationOutcome α :=
  registry.guardedKeyed generation (makeKey stateKey featureKeyRaw providerKind) .mutate
    featureKeyRaw op

def guardedRead {α : Type} (op : Entries → Leases → Entries × α) :
    LearnedCapabilityRegistry × GenerationOutcome α :=
  registry.guardedKeyed generation (makeKey stateKey featureKeyRaw providerKind) .read
    featureKeyRaw op

def observeInGeneration (tier : SignalTier) (phase : FailurePhase) (source : EvidenceSource)
    (evidenceClass : Option String) (now : Nat) :
    LearnedCapabilityRegistry × GenerationOutcome ObserveOutcome :=
  registry.guardedFor generation stateKey featureKeyRaw providerKind fun entries leased =>
    observeIn registry.tuning entries leased (makeKey stateKey featureKeyRaw providerKind) tier
      phase source evidenceClass now

def observeInGenerationWithObservations (tier : SignalTier) (phase : FailurePhase)
    (source : EvidenceSource) (evidenceClass : Option String) (now : Nat) :
    LearnedCapabilityRegistry × GenerationOutcome (ObserveOutcome × Nat) :=
  registry.guardedFor generation stateKey featureKeyRaw providerKind fun entries leased =>
    let key := makeKey stateKey featureKeyRaw providerKind
    let (after, outcome) :=
      observeIn registry.tuning entries leased key tier phase source evidenceClass now
    let observations :=
      match after.lookup key with
      | none => 0
      | some entry => entry.observations
    (after, outcome, observations)

def observePositiveInGeneration (source : EvidenceSource) (evidenceClass : Option String)
    (now : Nat) : LearnedCapabilityRegistry × GenerationOutcome PositiveOutcome :=
  registry.guardedFor generation stateKey featureKeyRaw providerKind fun entries leased =>
    observePositiveIn registry.tuning entries leased (makeKey stateKey featureKeyRaw providerKind)
      source evidenceClass now

/-- `none` is a refusal: the caller may not act on this key. -/
def actingNegativeInGeneration (now : Nat) :
    LearnedCapabilityRegistry × Option (RoutingDecision × Nat) :=
  let (after, outcome) :=
    registry.guardedRead generation stateKey featureKeyRaw providerKind fun entries _ =>
      actingNegativeForIn entries (makeKey stateKey featureKeyRaw providerKind) now
  (after,
   match outcome with
   | .applied value _ granted => some (value, granted)
   | .stale | .reserved | .exhausted => none)

def negativeStateInGeneration (now : Nat) :
    LearnedCapabilityRegistry × Option (NegativeState × Nat) :=
  let (after, outcome) :=
    registry.guardedRead generation stateKey featureKeyRaw providerKind fun entries _ =>
      (entries, negativeStateIn entries (makeKey stateKey featureKeyRaw providerKind) now)
  (after,
   match outcome with
   | .applied value _ granted => some (value, granted)
   | .stale | .reserved | .exhausted => none)

def isVerifiedWorkingInGeneration : LearnedCapabilityRegistry × Option Bool :=
  let (after, outcome) :=
    registry.guardedRead generation stateKey featureKeyRaw providerKind fun entries _ =>
      (entries, isVerifiedWorkingIn entries (makeKey stateKey featureKeyRaw providerKind))
  (after,
   match outcome with
   | .applied value _ _ => some value
   | .stale | .reserved | .exhausted => none)

def expireKeyedInGeneration (now : Nat) : LearnedCapabilityRegistry × GenerationOutcome Bool :=
  registry.guardedFor generation stateKey featureKeyRaw providerKind fun entries _ =>
    expireKeyedIn entries (makeKey stateKey featureKeyRaw providerKind) now

def removeKeyedInGeneration : LearnedCapabilityRegistry × GenerationOutcome Bool :=
  registry.guardedFor generation stateKey featureKeyRaw providerKind fun entries _ =>
    removeKeyedIn entries (makeKey stateKey featureKeyRaw providerKind)

def recordProbeOutcomeInGeneration (hasher : RegistryKey → Nat → Nat) (outcome : ProbeOutcome)
    (now : Nat) : LearnedCapabilityRegistry × GenerationOutcome Unit :=
  registry.guardedFor generation stateKey featureKeyRaw providerKind fun entries _ =>
    (recordProbeOutcomeIn registry.tuning entries (makeKey stateKey featureKeyRaw providerKind)
      hasher outcome now, ())

end Api
end LearnedCapabilityRegistry

/-- The incarnation, phase and source of one currently acting entry. -/
structure FieldActingFacts where
  incarnation : Nat
  phase : FailurePhase
  source : EvidenceSource
deriving Repr, DecidableEq

def LearnedCapabilityRegistry.fieldActingFactsInGeneration (registry : LearnedCapabilityRegistry)
    (generation : Nat) (stateKey featureKeyRaw providerKind : String) (now : Nat) :
    LearnedCapabilityRegistry × Option FieldActingFacts :=
  let (after, outcome) :=
    registry.guardedRead generation stateKey featureKeyRaw providerKind fun entries _ =>
      let key := makeKey stateKey featureKeyRaw providerKind
      (entries, negativeStateIn entries key now,
        (entries.lookup key).map fun entry =>
          ({ incarnation := entry.incarnation, phase := entry.phase, source := entry.source } :
            FieldActingFacts))
  (after,
   match outcome with
   | .applied (.acting, some facts) _ _ => some facts
   | _ => none)

/-- Everything a guarded call on `key` can do to the registry, given what its
operation does to the slot of `key`. -/
inductive GuardedStep (registry : LearnedCapabilityRegistry) (key : RegistryKey)
    (effect : Option LearnedEntry → Option LearnedEntry) :
    Intent → LearnedCapabilityRegistry → Prop where
  | refused : GuardedStep registry key effect intent registry
  | exhausted (full : u64Max ≤ registry.nextIncarnation) (count : Nat) :
      GuardedStep registry key effect .mutate { registry with exhaustedIncarnations := count }
  | mutated (entries : Entries) (unleased : key ∉ registry.purgeLeases)
      (room : registry.nextIncarnation < u64Max)
      (slot : entries.lookup key =
        (effect (registry.entries.lookup key)).map (restamp (registry.nextIncarnation + 1)))
      (frame : Frame registry.purgeLeases key registry.entries entries) :
      GuardedStep registry key effect .mutate
        { registry with entries, nextIncarnation := registry.nextIncarnation + 1 }
  | read (entries : Entries) (unleased : key ∉ registry.purgeLeases)
      (slot : entries.lookup key = effect (registry.entries.lookup key))
      (frame : Frame registry.purgeLeases key registry.entries entries) :
      GuardedStep registry key effect .read { registry with entries }

namespace GuardedStep
variable {registry after : LearnedCapabilityRegistry} {key : RegistryKey} {intent : Intent}
  {effect : Option LearnedEntry → Option LearnedEntry}

theorem generation_eq (step : GuardedStep registry key effect intent after) :
    after.generation = registry.generation := by cases step <;> rfl

theorem pendingGeneration_eq (step : GuardedStep registry key effect intent after) :
    after.pendingGeneration = registry.pendingGeneration := by cases step <;> rfl

theorem nextReceiptId_eq (step : GuardedStep registry key effect intent after) :
    after.nextReceiptId = registry.nextReceiptId := by cases step <;> rfl

theorem purgeLeases_eq (step : GuardedStep registry key effect intent after) :
    after.purgeLeases = registry.purgeLeases := by cases step <;> rfl

/-- Outside its key a guarded call can only evict. -/
theorem lookup_other (step : GuardedStep registry key effect intent after) {other : RegistryKey}
    (different : other ≠ key) : after.entries.lookup other = registry.entries.lookup other ∨
      after.entries.lookup other = none := by
  cases step with
  | refused => exact .inl rfl
  | exhausted full count => exact .inl rfl
  | mutated entries unleased room slot frame => exact (frame other different).imp_right And.left
  | read entries unleased slot frame => exact (frame other different).imp_right And.left

/-- No guarded call reaches an entry under a lease. -/
theorem leased_lookup (step : GuardedStep registry key effect intent after) {other : RegistryKey}
    (leased : other ∈ registry.purgeLeases) :
    after.entries.lookup other = registry.entries.lookup other := by
  have framed (entries : Entries) (unleased : key ∉ registry.purgeLeases)
      (frame : Frame registry.purgeLeases key registry.entries entries) :
      entries.lookup other = registry.entries.lookup other := by
    have different : other ≠ key := by
      intro same
      exact unleased (same ▸ leased)
    rcases frame other different with kept | ⟨_, free⟩
    · exact kept
    · exact absurd leased free
  cases step with
  | refused => rfl
  | exhausted full count => rfl
  | mutated entries unleased room slot frame => exact framed entries unleased frame
  | read entries unleased slot frame => exact framed entries unleased frame

end GuardedStep

/-- An operation body changes the slot of `key` by `effect` and frames the rest. -/
def OpSpec {α : Type} (key : RegistryKey) (effect : Option LearnedEntry → Option LearnedEntry)
    (op : Entries → Leases → Entries × α) : Prop :=
  ∀ entries leased, (op entries leased).1.lookup key = effect (entries.lookup key) ∧
    Frame leased key entries (op entries leased).1

namespace LearnedCapabilityRegistry
section Guard
variable {registry : LearnedCapabilityRegistry} {generation : Nat} {key : RegistryKey}
  {featureKey : String} {effect : Option LearnedEntry → Option LearnedEntry} {α : Type}
  {op : Entries → Leases → Entries × α}

theorem guardedKeyed_stale {intent : Intent} (refused : registry.admits generation featureKey = false) :
    registry.guardedKeyed generation key intent featureKey op = (registry, .stale) := by
  simp [guardedKeyed, refused]

theorem guardedKeyed_reserved {intent : Intent}
    (admitted : registry.admits generation featureKey = true) (leased : key ∈ registry.purgeLeases) :
    registry.guardedKeyed generation key intent featureKey op = (registry, .reserved) := by
  simp [guardedKeyed, admitted, leased]

theorem guardedKeyed_exhausted (admitted : registry.admits generation featureKey = true)
    (unleased : key ∉ registry.purgeLeases) (full : u64Max ≤ registry.nextIncarnation) :
    registry.guardedKeyed generation key .mutate featureKey op =
      ({ registry with exhaustedIncarnations := (registry.exhaustedIncarnations + 1) % 2 ^ 64 },
       .exhausted) := by
  simp [guardedKeyed, admitted, unleased, reserveIncarnation, checkedSucc_eq_none.mpr full]

theorem guardedKeyed_mutate (admitted : registry.admits generation featureKey = true)
    (unleased : key ∉ registry.purgeLeases) (room : registry.nextIncarnation < u64Max) :
    registry.guardedKeyed generation key .mutate featureKey op =
      ({ registry with
         entries := KeyedMap.modify key (restamp (registry.nextIncarnation + 1))
           (op registry.entries registry.purgeLeases).1,
         nextIncarnation := registry.nextIncarnation + 1 },
       .applied (op registry.entries registry.purgeLeases).2 (registry.nextIncarnation + 1)
         registry.effectivePersistenceGeneration) := by
  simp [guardedKeyed, admitted, unleased, reserveIncarnation,
    checkedSucc_eq_some.mpr ⟨room, rfl⟩]

theorem guardedKeyed_read (op : Entries → Leases → Entries × α)
    (admitted : registry.admits generation featureKey = true) (unleased : key ∉ registry.purgeLeases) :
    ∃ incarnation, registry.guardedKeyed generation key .read featureKey op =
      ({ registry with entries := (op registry.entries registry.purgeLeases).1 },
       .applied (op registry.entries registry.purgeLeases).2 incarnation
         registry.effectivePersistenceGeneration) := by
  simp [guardedKeyed, admitted, unleased]

/-- A guarded call reports `applied` exactly when its generation is admitted, no
purge holds its key, and a mutation still has an incarnation to take. -/
theorem guardedKeyed_applied_iff {intent : Intent} :
    (∃ value incarnation granted,
      (registry.guardedKeyed generation key intent featureKey op).2 =
        .applied value incarnation granted) ↔
      registry.admits generation featureKey = true ∧ key ∉ registry.purgeLeases ∧
        (intent = .mutate → registry.nextIncarnation < u64Max) := by
  cases admitted : registry.admits generation featureKey with
  | false => simp [guardedKeyed_stale admitted]
  | true =>
    by_cases leased : key ∈ registry.purgeLeases
    · simp [guardedKeyed_reserved admitted leased, leased]
    · cases intent with
      | read => simp [guardedKeyed, admitted, leased]
      | mutate =>
        rcases Nat.lt_or_ge registry.nextIncarnation u64Max with room | full
        · simp [guardedKeyed_mutate admitted leased room, leased, room]
        · simp [guardedKeyed_exhausted admitted leased full, Nat.not_lt.mpr full]

theorem guardedKeyed_step {intent : Intent} (spec : OpSpec key effect op) :
    GuardedStep registry key effect intent
      (registry.guardedKeyed generation key intent featureKey op).1 := by
  obtain ⟨slot, frame⟩ := spec registry.entries registry.purgeLeases
  cases admitted : registry.admits generation featureKey with
  | false => exact guardedKeyed_stale admitted ▸ .refused
  | true =>
    by_cases leased : key ∈ registry.purgeLeases
    · exact guardedKeyed_reserved admitted leased ▸ .refused
    · cases intent with
      | read =>
        obtain ⟨incarnation, same⟩ := guardedKeyed_read op admitted leased
        rw [same]
        exact .read _ leased slot frame
      | mutate =>
        rcases Nat.lt_or_ge registry.nextIncarnation u64Max with room | full
        · rw [guardedKeyed_mutate admitted leased room]
          refine .mutated _ leased room ?_ ?_
          · rw [KeyedMap.lookup_modify_self, slot]
          · intro other different
            rw [KeyedMap.lookup_modify_ne different]
            exact frame other different
        · rw [guardedKeyed_exhausted admitted leased full]
          exact .exhausted full _

end Guard

section ActingRead
variable (registry : LearnedCapabilityRegistry) (generation : Nat)
  (stateKey featureKeyRaw providerKind : String) (now : Nat)

/-- An acting read either claims the re-probe slot and says so, or changes
nothing. -/
theorem actingNegativeInGeneration_step :
    ((∃ granted, (registry.actingNegativeInGeneration generation stateKey featureKeyRaw providerKind
        now).2 = some (.probeAdmitted, granted)) ∧
      GuardedStep registry (makeKey stateKey featureKeyRaw providerKind)
        (fun slot => claimSlot slot now) .read
        (registry.actingNegativeInGeneration generation stateKey featureKeyRaw providerKind now).1) ∨
    ((∀ granted, (registry.actingNegativeInGeneration generation stateKey featureKeyRaw providerKind
        now).2 ≠ some (.probeAdmitted, granted)) ∧
      GuardedStep registry (makeKey stateKey featureKeyRaw providerKind) id .read
        (registry.actingNegativeInGeneration generation stateKey featureKeyRaw providerKind now).1) := by
  unfold actingNegativeInGeneration guardedRead
  cases admitted : registry.admits generation featureKeyRaw with
  | false =>
    rw [guardedKeyed_stale admitted]
    exact .inr ⟨by simp, .refused⟩
  | true =>
    by_cases leased : makeKey stateKey featureKeyRaw providerKind ∈ registry.purgeLeases
    · rw [guardedKeyed_reserved admitted leased]
      exact .inr ⟨by simp, .refused⟩
    · obtain ⟨incarnation, same⟩ := guardedKeyed_read (fun entries _ =>
        actingNegativeForIn entries (makeKey stateKey featureKeyRaw providerKind) now) admitted leased
      rw [same]
      obtain ⟨slot, claims, frame⟩ := actingNegativeForIn_spec registry.entries registry.purgeLeases
        (makeKey stateKey featureKeyRaw providerKind) now
      by_cases probe : (actingNegativeForIn registry.entries
          (makeKey stateKey featureKeyRaw providerKind) now).2 = .probeAdmitted
      · exact .inl ⟨⟨registry.effectivePersistenceGeneration, by simp [probe]⟩, .read _ leased slot frame⟩
      · refine .inr ⟨by simp [probe], .read _ leased ?_ frame⟩
        rw [slot, id_eq, claimSlot]
        cases found : registry.entries.lookup (makeKey stateKey featureKeyRaw providerKind) with
        | none => rfl
        | some entry =>
          have undue : entry.probeDue now = false := by
            by_contra due
            exact probe (claims.mpr ⟨entry, found, by simpa using due⟩)
          simp [undue]

/-- A due entry under no lease is granted to the next admitted read. -/
theorem actingNegativeInGeneration_due {entry : LearnedEntry}
    (admitted : registry.admits generation featureKeyRaw = true)
    (unleased : makeKey stateKey featureKeyRaw providerKind ∉ registry.purgeLeases)
    (resident : registry.entries.lookup (makeKey stateKey featureKeyRaw providerKind) = some entry)
    (due : entry.probeDue now = true) :
    (registry.actingNegativeInGeneration generation stateKey featureKeyRaw providerKind now).2 =
      some (.probeAdmitted, registry.effectivePersistenceGeneration) := by
  unfold actingNegativeInGeneration guardedRead
  obtain ⟨incarnation, same⟩ := guardedKeyed_read (fun entries _ =>
    actingNegativeForIn entries (makeKey stateKey featureKeyRaw providerKind) now) admitted unleased
  rw [same]
  have claims := (actingNegativeForIn_spec registry.entries registry.purgeLeases
    (makeKey stateKey featureKeyRaw providerKind) now).2.1
  simp [claims.mpr ⟨entry, resident, due⟩]

end ActingRead
end LearnedCapabilityRegistry

/-- The per-key operations that neither claim nor settle a re-probe. -/
inductive GuardedOp where
  | observe (tier : SignalTier) (phase : FailurePhase) (source : EvidenceSource)
      (evidenceClass : Option String) (now : Nat)
  | observePositive (source : EvidenceSource) (evidenceClass : Option String) (now : Nat)
  | negativeState (now : Nat)
  | isVerifiedWorking
  | fieldActingFacts (now : Nat)
  | expireKeyed (now : Nat)
  | removeKeyed

namespace GuardedOp

def intent : GuardedOp → Intent
  | .negativeState _ | .isVerifiedWorking | .fieldActingFacts _ => .read
  | _ => .mutate

def effect (tuning : RegistryTuning) (slot : Option LearnedEntry) : GuardedOp → Option LearnedEntry
  | .observe tier phase source evidence now =>
    some (observeSlot tuning slot tier phase source evidence now).1
  | .observePositive source evidence now => some (positiveSlot slot source evidence now)
  | .negativeState _ | .isVerifiedWorking | .fieldActingFacts _ => slot
  | .expireKeyed now => slot.map fun entry => { entry with expiresAt := now, inFlight := false }
  | .removeKeyed => none

end GuardedOp

/-- One generation-guarded call, as its caller makes it. -/
structure GuardedCall where
  generation : Nat
  stateKey : String
  featureKeyRaw : String
  providerKind : String
  op : GuardedOp

namespace GuardedCall

def key (call : GuardedCall) : RegistryKey :=
  makeKey call.stateKey call.featureKeyRaw call.providerKind

def apply (call : GuardedCall) (registry : LearnedCapabilityRegistry) : LearnedCapabilityRegistry :=
  let ⟨generation, stateKey, featureKeyRaw, providerKind, op⟩ := call
  match op with
  | .observe tier phase source evidence now =>
    (registry.observeInGeneration generation stateKey featureKeyRaw providerKind tier phase source
      evidence now).1
  | .observePositive source evidence now =>
    (registry.observePositiveInGeneration generation stateKey featureKeyRaw providerKind source
      evidence now).1
  | .negativeState now =>
    (registry.negativeStateInGeneration generation stateKey featureKeyRaw providerKind now).1
  | .isVerifiedWorking =>
    (registry.isVerifiedWorkingInGeneration generation stateKey featureKeyRaw providerKind).1
  | .fieldActingFacts now =>
    (registry.fieldActingFactsInGeneration generation stateKey featureKeyRaw providerKind now).1
  | .expireKeyed now =>
    (registry.expireKeyedInGeneration generation stateKey featureKeyRaw providerKind now).1
  | .removeKeyed =>
    (registry.removeKeyedInGeneration generation stateKey featureKeyRaw providerKind).1

end GuardedCall

section Steps
variable (registry : LearnedCapabilityRegistry) (generation : Nat)
  (stateKey featureKeyRaw providerKind : String)

private theorem guardedRead_step {α : Type} (view : Entries → α) :
    GuardedStep registry (makeKey stateKey featureKeyRaw providerKind) id .read
      (registry.guardedRead generation stateKey featureKeyRaw providerKind fun entries _ =>
        (entries, view entries)).1 :=
  LearnedCapabilityRegistry.guardedKeyed_step fun entries leased =>
    ⟨rfl, Frame.refl leased _ entries⟩

theorem GuardedCall.apply_step (call : GuardedCall) :
    GuardedStep registry call.key (fun slot => call.op.effect registry.tuning slot) call.op.intent
      (call.apply registry) := by
  obtain ⟨generation, stateKey, featureKeyRaw, providerKind, op⟩ := call
  cases op with
  | observe tier phase source evidence now =>
    exact LearnedCapabilityRegistry.guardedKeyed_step fun entries leased =>
      have spec := observeIn_spec tier phase source evidence now
      ⟨spec.1, spec.2.2⟩
  | observePositive source evidence now =>
    exact LearnedCapabilityRegistry.guardedKeyed_step fun entries leased =>
      observePositiveIn_spec source evidence now
  | negativeState now =>
    exact guardedRead_step registry generation stateKey featureKeyRaw providerKind fun entries =>
      negativeStateIn entries (makeKey stateKey featureKeyRaw providerKind) now
  | isVerifiedWorking =>
    exact guardedRead_step registry generation stateKey featureKeyRaw providerKind fun entries =>
      isVerifiedWorkingIn entries (makeKey stateKey featureKeyRaw providerKind)
  | fieldActingFacts now =>
    exact guardedRead_step registry generation stateKey featureKeyRaw providerKind fun entries =>
      (negativeStateIn entries (makeKey stateKey featureKeyRaw providerKind) now,
        (entries.lookup (makeKey stateKey featureKeyRaw providerKind)).map fun entry =>
          ({ incarnation := entry.incarnation, phase := entry.phase, source := entry.source } :
            FieldActingFacts))
  | expireKeyed now =>
    exact LearnedCapabilityRegistry.guardedKeyed_step fun entries leased =>
      ⟨KeyedMap.lookup_modify_self _ _ entries, Frame.modify leased _ _ entries⟩
  | removeKeyed =>
    exact LearnedCapabilityRegistry.guardedKeyed_step fun entries leased =>
      ⟨AList.lookup_erase _ entries, Frame.erase leased _ entries⟩

end Steps

/-! Operator purges: a lease captures one entry, and only its finalize removes
it. Finalize takes its two locks one after the other. -/

/-- The reservation of one key, at the version it captured. -/
structure PurgeLease where
  incarnation : Nat
  key : RegistryKey
  captured : LearnedEntry
  generation : Nat
  same : captured.incarnation = incarnation
deriving Repr, DecidableEq

inductive PurgePreparation where
  | reserved (lease : PurgeLease)
  | absent
  | busy
  | stale
deriving Repr, DecidableEq

namespace LearnedCapabilityRegistry
variable (registry : LearnedCapabilityRegistry)

def preparePurge (generation : Nat) (stateKey featureKeyRaw providerKind : String) :
    LearnedCapabilityRegistry × PurgePreparation :=
  let key := makeKey stateKey featureKeyRaw providerKind
  if !registry.admits generation key.featureKey then (registry, .stale)
  else if registry.pendingGeneration.isSome then (registry, .busy)
  else
    match registry.entries.lookup key with
    | none => (registry, .absent)
    | some captured =>
      if key ∈ registry.purgeLeases then (registry, .busy)
      else
        ({ registry with purgeLeases := insert key registry.purgeLeases },
         .reserved
           { incarnation := captured.incarnation, key, captured,
             generation := registry.effectivePersistenceGeneration, same := rfl })

/-- Finalize under the entries lock: remove exactly the captured version. -/
def finalizeRemove (lease : PurgeLease) : LearnedCapabilityRegistry × Bool :=
  match registry.entries.lookup lease.key with
  | some entry =>
    if entry.incarnation = lease.incarnation then
      ({ registry with entries := registry.entries.erase lease.key }, true)
    else (registry, false)
  | none => (registry, false)

/-- The lease-set half every settlement of a lease ends with. -/
def releaseLease (lease : PurgeLease) : LearnedCapabilityRegistry :=
  { registry with purgeLeases := registry.purgeLeases.erase lease.key }

def restorePurge (lease : PurgeLease) : LearnedCapabilityRegistry := registry.releaseLease lease

/-- Dropping an unsettled lease. -/
def dropLease (lease : PurgeLease) : LearnedCapabilityRegistry := registry.releaseLease lease

theorem preparePurge_reserved {generation : Nat} {stateKey featureKeyRaw providerKind : String}
    {after : LearnedCapabilityRegistry} {lease : PurgeLease}
    (prepared : registry.preparePurge generation stateKey featureKeyRaw providerKind =
      (after, .reserved lease)) :
    lease.key = makeKey stateKey featureKeyRaw providerKind ∧
      registry.pendingGeneration = none ∧ registry.entries.lookup lease.key = some lease.captured ∧
      lease.key ∉ registry.purgeLeases ∧ lease.generation = registry.generation ∧
      after = { registry with purgeLeases := insert lease.key registry.purgeLeases } := by
  unfold preparePurge at prepared
  dsimp only at prepared
  split at prepared
  · cases prepared
  · split at prepared
    · cases prepared
    · rename_i unpending
      have settled : registry.pendingGeneration = none := by simpa using unpending
      cases found : registry.entries.lookup (makeKey stateKey featureKeyRaw providerKind) with
      | none =>
        rw [found] at prepared
        cases prepared
      | some captured =>
        rw [found] at prepared
        dsimp only at prepared
        split at prepared
        · cases prepared
        · rename_i unleased
          cases prepared
          exact ⟨rfl, settled, found, unleased, by simp [effectivePersistenceGeneration, settled], rfl⟩

/-- Every refused preparation leaves the registry as it was. -/
theorem preparePurge_refused (generation : Nat) (stateKey featureKeyRaw providerKind : String)
    (refused : ∀ lease,
      (registry.preparePurge generation stateKey featureKeyRaw providerKind).2 ≠ .reserved lease) :
    (registry.preparePurge generation stateKey featureKeyRaw providerKind).1 = registry := by
  revert refused
  unfold preparePurge
  dsimp only
  split
  · intro _
    rfl
  · split
    · intro _
      rfl
    · cases registry.entries.lookup (makeKey stateKey featureKeyRaw providerKind) with
      | none =>
        intro _
        rfl
      | some captured =>
        dsimp only
        split
        · intro _
          rfl
        · intro refused
          exact absurd rfl (refused _)

theorem finalizeRemove_captured {lease : PurgeLease}
    (resident : registry.entries.lookup lease.key = some lease.captured) :
    registry.finalizeRemove lease =
      ({ registry with entries := registry.entries.erase lease.key }, true) := by
  simp [finalizeRemove, resident, lease.same]

end LearnedCapabilityRegistry

end Routectl.Registry
