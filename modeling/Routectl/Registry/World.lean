import Routectl.Library.Transition
import Routectl.Registry.Boundary
import Routectl.Registry.ProbeGuard
import Routectl.Registry.Guarded

/-! The registry among its callers: the admissions, leases and receipts they
hold, and every atomic step any of them can take. -/
namespace Routectl.Registry
open Routectl.Core Library

/-- A lease some handler still holds. `removed` once its finalize has left the
entries lock and not yet taken the lease lock. -/
structure LiveLease where
  serial : Nat
  lease : PurgeLease
  removed : Bool
deriving Repr, DecidableEq

structure World where
  registry : LearnedCapabilityRegistry
  held : List ProbeAdmission
  leases : List LiveLease
  nextSerial : Nat
  issued : List BoundaryReceipt
  settled : List BoundaryReceipt

inductive Action where
  | call (call : GuardedCall)
  | read (generation : Nat) (stateKey featureKeyRaw providerKind : String) (now : Nat)
  | settle (position : Nat) (outcome : ProbeOutcome) (now : Nat)
  | preparePurge (generation : Nat) (stateKey featureKeyRaw providerKind : String)
  | finalizeRemove (serial : Nat)
  | finalizeRelease (serial : Nat)
  | restorePurge (serial : Nat)
  | dropLease (serial : Nat)
  | boundaryCut (queued : Bool)
  | commit (receipt : BoundaryReceipt)
  | rollback (receipt : BoundaryReceipt)
  | retune (tuning : RegistryTuning)
  | rehash (entries : Entries)

namespace World

def initial (decay inferredWindow maxEntries : Nat) : World :=
  { registry := .new decay inferredWindow maxEntries, held := [], leases := [], nextSerial := 0,
    issued := [], settled := [] }

def findLease (world : World) (serial : Nat) : Option LiveLease :=
  world.leases.find? fun live => live.serial = serial

def forgetLease (world : World) (serial : Nat) : List LiveLease :=
  world.leases.filter fun live => live.serial ≠ serial

def markRemoved (world : World) (serial : Nat) : List LiveLease :=
  world.leases.map fun live => if live.serial = serial then { live with removed := true } else live

variable (hasher : RegistryKey → Nat → Nat)

/-- The boundary cut's `submit` only queues its batch, so whether it was queued
is all the registry learns. A rehash is the map's freedom of iteration order. -/
def step (world : World) : Action → Option World
  | .call call => some { world with registry := call.apply world.registry }
  | .read generation stateKey featureKeyRaw providerKind now =>
    match world.registry.actingNegativeInGeneration generation stateKey featureKeyRaw providerKind
        now with
    | (registry, some (.probeAdmitted, granted)) =>
      some { world with
        registry, held := .granted stateKey featureKeyRaw providerKind granted :: world.held }
    | (registry, _) => some { world with registry }
  | .settle position outcome now =>
    match world.held[position]? with
    | none => none
    | some admission =>
      some { world with
        registry := (settleAdmission hasher world.registry admission outcome now).1,
        held := world.held.eraseIdx position }
  | .preparePurge generation stateKey featureKeyRaw providerKind =>
    match world.registry.preparePurge generation stateKey featureKeyRaw providerKind with
    | (registry, .reserved lease) =>
      some { world with
        registry, leases := ⟨world.nextSerial, lease, false⟩ :: world.leases,
        nextSerial := world.nextSerial + 1 }
    | (registry, _) => some { world with registry }
  | .finalizeRemove serial =>
    match world.findLease serial with
    | some ⟨_, lease, false⟩ =>
      some { world with
        registry := (world.registry.finalizeRemove lease).1, leases := world.markRemoved serial }
    | _ => none
  | .finalizeRelease serial =>
    match world.findLease serial with
    | some ⟨_, lease, true⟩ =>
      some { world with
        registry := world.registry.releaseLease lease, leases := world.forgetLease serial }
    | _ => none
  | .restorePurge serial =>
    match world.findLease serial with
    | some ⟨_, lease, false⟩ =>
      some { world with
        registry := world.registry.restorePurge lease, leases := world.forgetLease serial }
    | _ => none
  | .dropLease serial =>
    match world.findLease serial with
    | some ⟨_, lease, false⟩ =>
      some { world with
        registry := world.registry.dropLease lease, leases := world.forgetLease serial }
    | _ => none
  | .boundaryCut queued =>
    match world.registry.withBoundaryCut (fun _ _ => queued) id with
    | (registry, .taken _ receipt) => some { world with registry, issued := receipt :: world.issued }
    | (registry, _) => some { world with registry }
  | .commit receipt =>
    if receipt ∈ world.issued then
      match world.registry.commitBoundaryTransition receipt with
      | (registry, .applied _ _) =>
        some { world with registry, settled := receipt :: world.settled }
      | (registry, .staleReceipt) => some { world with registry }
    else none
  | .rollback receipt =>
    if receipt ∈ world.issued then
      match world.registry.rollbackPendingGeneration receipt with
      | (registry, .applied _ _) =>
        some { world with registry, settled := receipt :: world.settled }
      | (registry, .staleReceipt) => some { world with registry }
    else none
  | .retune tuning => some { world with registry := { world.registry with tuning } }
  | .rehash entries =>
    if entries.entries.Perm world.registry.entries.entries then
      some { world with registry := { world.registry with entries } }
    else none

/-- The registry's callers as a machine. -/
def machine : Machine World Action := ⟨step hasher⟩

def Reachable (world : World) : Prop :=
  ∃ decay inferredWindow maxEntries actions,
    (machine hasher).run (initial decay inferredWindow maxEntries) actions = some world

/-- An invariant of the initial worlds that every step keeps holds wherever the
callers can drive the registry. -/
theorem Reachable.invariant {property : World → Prop} {world : World}
    (reachable : Reachable hasher world)
    (starts : ∀ decay inferredWindow maxEntries, property (initial decay inferredWindow maxEntries))
    (preserves : (machine hasher).Preserves property) : property world := by
  obtain ⟨decay, inferredWindow, maxEntries, actions, reached⟩ := reachable
  exact preserves.run _ (starts decay inferredWindow maxEntries) reached

/-- What one action can do, one constructor a kind of change. -/
inductive Moved (world : World) : Action → World → Prop where
  | called (call : GuardedCall) (registry : LearnedCapabilityRegistry)
      (step : GuardedStep world.registry call.key
        (fun slot => call.op.effect world.registry.tuning slot) call.op.intent registry) :
      Moved world (.call call) { world with registry }
  | looked (registry : LearnedCapabilityRegistry)
      (step : GuardedStep world.registry (makeKey stateKey featureKeyRaw providerKind) id .read
        registry) :
      Moved world (.read generation stateKey featureKeyRaw providerKind now) { world with registry }
  | claimed (granted : Nat) (registry : LearnedCapabilityRegistry)
      (step : GuardedStep world.registry (makeKey stateKey featureKeyRaw providerKind)
        (fun slot => claimSlot slot now) .read registry) :
      Moved world (.read generation stateKey featureKeyRaw providerKind now)
        { world with
          registry, held := .granted stateKey featureKeyRaw providerKind granted :: world.held }
  | settled (admission : ProbeAdmission) (present : world.held[position]? = some admission) :
      Moved world (.settle position outcome now)
        { world with
          registry := (settleAdmission hasher world.registry admission outcome now).1,
          held := world.held.eraseIdx position }
  | unprepared : Moved world (.preparePurge generation stateKey featureKeyRaw providerKind) world
  | prepared (lease : PurgeLease)
      (key : lease.key = makeKey stateKey featureKeyRaw providerKind)
      (unpending : world.registry.pendingGeneration = none)
      (resident : world.registry.entries.lookup lease.key = some lease.captured)
      (unleased : lease.key ∉ world.registry.purgeLeases) :
      Moved world (.preparePurge generation stateKey featureKeyRaw providerKind)
        { world with
          registry := { world.registry with
            purgeLeases := insert lease.key world.registry.purgeLeases },
          leases := ⟨world.nextSerial, lease, false⟩ :: world.leases,
          nextSerial := world.nextSerial + 1 }
  | removed (live : LiveLease) (found : world.findLease serial = some live)
      (open_ : live.removed = false) :
      Moved world (.finalizeRemove serial)
        { world with
          registry := (world.registry.finalizeRemove live.lease).1,
          leases := world.markRemoved serial }
  | released (live : LiveLease) (found : world.findLease serial = some live)
      (kind : action = .finalizeRelease serial ∧ live.removed = true ∨
        action = .restorePurge serial ∧ live.removed = false ∨
        action = .dropLease serial ∧ live.removed = false) :
      Moved world action
        { world with
          registry := world.registry.releaseLease live.lease, leases := world.forgetLease serial }
  | uncut : Moved world (.boundaryCut queued) world
  | cut (receipt : BoundaryReceipt) (unpending : world.registry.pendingGeneration = none)
      (unleased : world.registry.purgeLeases = ∅)
      (derived : receipt = ⟨world.registry.generation + 1, world.registry.nextReceiptId + 1⟩) :
      Moved world (.boundaryCut queued)
        { world with
          registry := { world.registry with
            pendingGeneration := some receipt,
            nextReceiptId := world.registry.nextReceiptId + 1 },
          issued := receipt :: world.issued }
  | stale (receipt : BoundaryReceipt) (other : world.registry.pendingGeneration ≠ some receipt)
      (kind : action = .commit receipt ∨ action = .rollback receipt) : Moved world action world
  | regressed (pending : world.registry.pendingGeneration = some receipt)
      (still : receipt.generation ≤ world.registry.generation) :
      Moved world (.commit receipt)
        { world with registry := { world.registry with pendingGeneration := none } }
  | committed (pending : world.registry.pendingGeneration = some receipt)
      (advances : world.registry.generation < receipt.generation) :
      Moved world (.commit receipt)
        { world with
          registry := { world.registry with
            pendingGeneration := none, generation := receipt.generation,
            entries := KeyedMap.retain catalogIndependent world.registry.entries },
          settled := receipt :: world.settled }
  | rolledBack (pending : world.registry.pendingGeneration = some receipt) :
      Moved world (.rollback receipt)
        { world with
          registry := { world.registry with pendingGeneration := none },
          settled := receipt :: world.settled }
  | retuned (tuning : RegistryTuning) :
      Moved world (.retune tuning) { world with registry := { world.registry with tuning } }
  | rehashed (entries : Entries)
      (permuted : entries.entries.Perm world.registry.entries.entries) :
      Moved world (.rehash entries) { world with registry := { world.registry with entries } }

variable {hasher}

theorem step_moved {world next : World} {action : Action}
    (step : world.step hasher action = some next) : Moved hasher world action next := by
  cases action with
  | call call =>
    cases step
    exact .called call _ (call.apply_step world.registry)
  | read generation stateKey featureKeyRaw providerKind now =>
    have moved := world.registry.actingNegativeInGeneration_step generation stateKey featureKeyRaw
      providerKind now
    simp only [World.step] at step
    split at step
    · rename_i registry granted same
      cases step
      rw [same] at moved
      rcases moved with ⟨-, move⟩ | ⟨other, -⟩
      · exact .claimed granted registry move
      · exact absurd rfl (other granted)
    · rename_i registry decision other same
      cases step
      rw [same] at moved
      rcases moved with ⟨⟨granted, probe⟩, -⟩ | ⟨-, move⟩
      · exact (other granted probe).elim
      · exact .looked registry move
  | settle position outcome now =>
    simp only [World.step] at step
    split at step
    · cases step
    · rename_i admission present
      cases step
      exact .settled admission present
  | preparePurge generation stateKey featureKeyRaw providerKind =>
    simp only [World.step] at step
    split at step
    · rename_i registry lease prepared
      cases step
      obtain ⟨key, unpending, resident, unleased, -, rfl⟩ :=
        world.registry.preparePurge_reserved prepared
      exact .prepared lease key unpending resident unleased
    · rename_i registry preparation refused same
      cases step
      have kept := world.registry.preparePurge_refused generation stateKey featureKeyRaw
        providerKind fun lease reserved => refused lease (by
          rw [same] at reserved
          exact reserved)
      rw [same] at kept
      subst kept
      exact .unprepared
  | finalizeRemove serial =>
    simp only [World.step] at step
    split at step
    · rename_i found
      cases step
      exact .removed _ found rfl
    · cases step
  | finalizeRelease serial =>
    simp only [World.step] at step
    split at step
    · rename_i found
      cases step
      exact .released _ found (.inl ⟨rfl, rfl⟩)
    · cases step
  | restorePurge serial =>
    simp only [World.step] at step
    split at step
    · rename_i found
      cases step
      exact .released _ found (.inr (.inl ⟨rfl, rfl⟩))
    · cases step
  | dropLease serial =>
    simp only [World.step] at step
    split at step
    · rename_i found
      cases step
      exact .released _ found (.inr (.inr ⟨rfl, rfl⟩))
    · cases step
  | boundaryCut queued =>
    simp only [World.step] at step
    split at step
    · rename_i registry outcome receipt taken
      cases step
      obtain ⟨unpending, unleased, -, -, -, -, derived, rfl⟩ :=
        world.registry.withBoundaryCut_taken taken
      exact .cut receipt unpending unleased derived
    · rename_i registry result refused same
      cases step
      have kept := world.registry.withBoundaryCut_refused (fun _ _ => queued) id fun outcome receipt taken => refused outcome receipt (by
          rw [same] at taken
          exact taken)
      rw [same] at kept
      subst kept
      exact .uncut
  | commit receipt =>
    simp only [World.step] at step
    split at step
    · by_cases pending : world.registry.pendingGeneration = some receipt
      · rcases Nat.lt_or_ge world.registry.generation receipt.generation with advances | still
        · rw [LearnedCapabilityRegistry.commitBoundaryTransition_pending pending advances] at step
          cases step
          exact .committed pending advances
        · simp only [LearnedCapabilityRegistry.commitBoundaryTransition, pending, ne_eq,
            not_true_eq_false, ↓reduceIte, still] at step
          cases step
          exact .regressed pending still
      · rw [LearnedCapabilityRegistry.commitBoundaryTransition_stale pending] at step
        cases step
        exact .stale receipt pending (.inl rfl)
    · cases step
  | rollback receipt =>
    simp only [World.step] at step
    split at step
    · by_cases pending : world.registry.pendingGeneration = some receipt
      · rw [LearnedCapabilityRegistry.rollbackPendingGeneration_pending pending] at step
        cases step
        exact .rolledBack pending
      · rw [LearnedCapabilityRegistry.rollbackPendingGeneration_stale pending] at step
        cases step
        exact .stale receipt pending (.inr rfl)
    · cases step
  | retune tuning =>
    cases step
    exact .retuned tuning
  | rehash entries =>
    simp only [World.step] at step
    split at step
    · rename_i permuted
      cases step
      exact .rehashed entries permuted
    · cases step

end World
end Routectl.Registry
