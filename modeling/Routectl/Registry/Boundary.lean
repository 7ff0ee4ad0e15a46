import Routectl.Registry.Guarded

/-! The reload boundary: cut, commit and rollback, each bound to a receipt. -/
namespace Routectl.Registry
open Routectl.Core Library

/-- A snapshot row, in the shape the boundary batch restates. -/
structure LearnedRegistryEntry where
  stateKey : String
  featureKey : String
  verdict : Verdict
  signalTier : SignalTier
  observations : Nat
  firstSeen : Nat
  lastSeen : Nat
  expiresAt : Nat
  evidenceClass : Option String
  phase : FailurePhase
  source : EvidenceSource
deriving Repr, DecidableEq

def LearnedEntry.snapshotRow (key : RegistryKey) (entry : LearnedEntry) : LearnedRegistryEntry :=
  { stateKey := key.stateKey, featureKey := key.featureKey, verdict := entry.readVerdict,
    signalTier := entry.signal, observations := entry.observations, firstSeen := entry.firstSeen,
    lastSeen := entry.lastSeen, expiresAt := entry.expiresAt, evidenceClass := entry.evidenceClass,
    phase := entry.phase, source := entry.source }

inductive BoundaryCut (α : Type) where
  | taken (outcome : α) (receipt : BoundaryReceipt)
  | busy (inFlight : Nat)
  | exhausted
  | rejected (outcome : α)

inductive BoundarySettlement where
  | applied (generation : Nat) (pruned : Nat)
  | staleReceipt
deriving Repr, DecidableEq

def catalogIndependent (key : RegistryKey) : Bool := !capabilityKeyIsCatalogScoped key.featureKey

namespace LearnedCapabilityRegistry
variable (registry : LearnedCapabilityRegistry)

/-- The catalog-independent residents a boundary restates. -/
def survivors : List LearnedRegistryEntry :=
  (registry.entries.entries.filter fun resident => catalogIndependent resident.1).map
    fun resident => resident.2.snapshotRow resident.1

def withBoundaryCut {α : Type} (submit : List LearnedRegistryEntry → Nat → α)
    (admitted : α → Bool) : LearnedCapabilityRegistry × BoundaryCut α :=
  match registry.pendingGeneration with
  | some inFlight => (registry, .busy inFlight.generation)
  | none =>
    match checkedSucc registry.generation with
    | none => (registry, .exhausted)
    | some pendingGen =>
      match checkedSucc registry.nextReceiptId with
      | none => (registry, .exhausted)
      | some receiptId =>
        if registry.purgeLeases ≠ ∅ then (registry, .busy registry.generation)
        else
          let outcome := submit registry.survivors pendingGen
          if !admitted outcome then (registry, .rejected outcome)
          else
            let receipt : BoundaryReceipt := { generation := pendingGen, id := receiptId }
            ({ registry with pendingGeneration := some receipt, nextReceiptId := receiptId },
             .taken outcome receipt)

def commitBoundaryTransition (receipt : BoundaryReceipt) :
    LearnedCapabilityRegistry × BoundarySettlement :=
  if registry.pendingGeneration ≠ some receipt then (registry, .staleReceipt)
  else if receipt.generation ≤ registry.generation then
    ({ registry with pendingGeneration := none }, .staleReceipt)
  else
    let kept := KeyedMap.retain catalogIndependent registry.entries
    ({ registry with pendingGeneration := none, generation := receipt.generation, entries := kept },
     .applied receipt.generation (registry.entries.entries.length - kept.entries.length))

def rollbackPendingGeneration (receipt : BoundaryReceipt) :
    LearnedCapabilityRegistry × BoundarySettlement :=
  if registry.pendingGeneration ≠ some receipt then (registry, .staleReceipt)
  else ({ registry with pendingGeneration := none }, .applied receipt.generation 0)

section Cut
variable {α : Type} {submit : List LearnedRegistryEntry → Nat → α} {admitted : α → Bool}

theorem withBoundaryCut_taken {after : LearnedCapabilityRegistry} {outcome : α}
    {receipt : BoundaryReceipt}
    (taken : registry.withBoundaryCut submit admitted = (after, .taken outcome receipt)) :
    registry.pendingGeneration = none ∧ registry.purgeLeases = ∅ ∧
      registry.generation < u64Max ∧ registry.nextReceiptId < u64Max ∧
      outcome = submit registry.survivors (registry.generation + 1) ∧ admitted outcome = true ∧
      receipt = ⟨registry.generation + 1, registry.nextReceiptId + 1⟩ ∧
      after = { registry with
        pendingGeneration := some receipt, nextReceiptId := registry.nextReceiptId + 1 } := by
  unfold withBoundaryCut at taken
  split at taken
  · cases taken
  · rename_i unpending
    split at taken
    · cases taken
    · rename_i generation derived
      obtain ⟨generationRoom, rfl⟩ := checkedSucc_eq_some.mp derived
      split at taken
      · cases taken
      · rename_i id allocated
        obtain ⟨idRoom, rfl⟩ := checkedSucc_eq_some.mp allocated
        split at taken
        · cases taken
        · rename_i unleased
          dsimp only at taken
          split at taken
          · cases taken
          · rename_i queued
            cases taken
            exact ⟨unpending, not_not.mp unleased, generationRoom, idRoom, rfl, by simpa using queued,
              rfl, rfl⟩

/-- Every refusal precedes every state change. -/
theorem withBoundaryCut_refused (submit : List LearnedRegistryEntry → Nat → α)
    (admitted : α → Bool)
    (refused : ∀ outcome receipt,
      (registry.withBoundaryCut submit admitted).2 ≠ .taken outcome receipt) :
    (registry.withBoundaryCut submit admitted).1 = registry := by
  revert refused
  unfold withBoundaryCut
  split
  · exact fun _ => rfl
  · split
    · exact fun _ => rfl
    · split
      · exact fun _ => rfl
      · split
        · exact fun _ => rfl
        · dsimp only
          split
          · exact fun _ => rfl
          · exact fun refused => absurd rfl (refused _ _)

end Cut

section Settlement
variable {registry} {receipt : BoundaryReceipt}

theorem commitBoundaryTransition_stale (other : registry.pendingGeneration ≠ some receipt) :
    registry.commitBoundaryTransition receipt = (registry, .staleReceipt) := if_pos other

theorem rollbackPendingGeneration_stale (other : registry.pendingGeneration ≠ some receipt) :
    registry.rollbackPendingGeneration receipt = (registry, .staleReceipt) := if_pos other

theorem rollbackPendingGeneration_pending (pending : registry.pendingGeneration = some receipt) :
    registry.rollbackPendingGeneration receipt =
      ({ registry with pendingGeneration := none }, .applied receipt.generation 0) := by
  simp [rollbackPendingGeneration, pending]

theorem commitBoundaryTransition_pending (pending : registry.pendingGeneration = some receipt)
    (advances : registry.generation < receipt.generation) :
    registry.commitBoundaryTransition receipt =
      ({ registry with
         pendingGeneration := none, generation := receipt.generation,
         entries := KeyedMap.retain catalogIndependent registry.entries },
       .applied receipt.generation
         (registry.entries.entries.length -
           (KeyedMap.retain catalogIndependent registry.entries).entries.length)) := by
  simp [commitBoundaryTransition, pending, Nat.not_le.mpr advances]

end Settlement
end LearnedCapabilityRegistry
end Routectl.Registry
