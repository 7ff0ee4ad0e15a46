import Routectl.Ledger.Writer
import Routectl.Registry.World

/-! The registry, the events and batches on their way, and the writer. Events and
batches reach the writer in any order and after any delay. -/
namespace Routectl.Ledger
open Routectl.Core Library Registry

/-- An event riding its request, stamped by the mutation it describes. -/
structure Flight where
  event : CapabilityEvent
  stamp : EventStamp
deriving Repr, DecidableEq

structure Plane where
  world : World
  writer : Writer
  flights : List Flight
  batches : List CapabilityBatch

/-- `registry` is a step that emits nothing. -/
inductive PlaneAction where
  | registry (action : Action)
  | emit (action : Action) (event : CapabilityEvent)
  | submitPurge (serial now : Nat) (revision : Revision)
  | submitBoundary (now : Nat) (revision : Revision) (queued : Bool)
  | commitBatch (position : Nat) (stored : Bool)
  | deliver (position : Nat) (stored : Bool)

namespace Plane

def initial (decay inferredWindow maxEntries : Nat) : Plane :=
  { world := .initial decay inferredWindow maxEntries, writer := .empty, flights := [],
    batches := [] }

variable (hasher : RegistryKey → Nat → Nat)

/-- An event names the canonical key its mutation touched, a purge submits the
clear of a lease it still holds. -/
def step (plane : Plane) : PlaneAction → Option Plane
  | .registry action => (plane.world.step hasher action).map fun world => { plane with world }
  | .emit action event =>
    match plane.world.mutation hasher action with
    | none => none
    | some (key, stamp) =>
      if event.key = key then
        (plane.world.step hasher action).map fun world =>
          { plane with world, flights := ⟨event, stamp⟩ :: plane.flights }
      else none
  | .submitPurge serial now revision =>
    match plane.world.findLease serial with
    | some ⟨_, lease, false⟩ =>
      some { plane with batches := purgeBatch lease now revision :: plane.batches }
    | _ => none
  | .submitBoundary now revision queued =>
    (plane.world.step hasher (.boundaryCut queued)).map fun world =>
      { plane with
        world,
        batches :=
          match (admitCapabilityBoundary plane.world.registry now revision queued).2 with
          | .taken batch _ => batch :: plane.batches
          | _ => plane.batches }
  | .commitBatch position stored =>
    match plane.batches[position]? with
    | none => none
    | some batch =>
      some { plane with
        writer := (plane.writer.commitCapabilityBatch batch stored).1,
        batches := plane.batches.eraseIdx position }
  | .deliver position stored =>
    match plane.flights[position]? with
    | none => none
    | some flight =>
      some { plane with
        writer := (plane.writer.persistCapabilityEvent flight.event flight.stamp stored).1,
        flights := plane.flights.eraseIdx position }

def machine : Machine Plane PlaneAction := ⟨step hasher⟩

def Reachable (plane : Plane) : Prop :=
  ∃ decay inferredWindow maxEntries actions,
    (machine hasher).run (initial decay inferredWindow maxEntries) actions = some plane

def floor (plane : Plane) (key : RegistryKey) : Option Nat := plane.writer.purgeFloors.lookup key

variable {hasher}

section Steps
variable {plane next : Plane}

theorem step_registry {action : Action} (step : plane.step hasher (.registry action) = some next) :
    ∃ world, plane.world.step hasher action = some world ∧ next = { plane with world } := by
  obtain ⟨world, moved, rfl⟩ := Option.map_eq_some_iff.mp step
  exact ⟨world, moved, rfl⟩

theorem step_emit {action : Action} {event : CapabilityEvent}
    (step : plane.step hasher (.emit action event) = some next) :
    ∃ stamp world, plane.world.mutation hasher action = some (event.key, stamp) ∧
      plane.world.step hasher action = some world ∧
      Stamped plane.world.registry world.registry event.key stamp ∧
      next = { plane with world, flights := ⟨event, stamp⟩ :: plane.flights } := by
  simp only [Plane.step] at step
  split at step
  · cases step
  · rename_i key stamp mutates
    split at step
    · rename_i same
      obtain ⟨world, moved, rfl⟩ := Option.map_eq_some_iff.mp step
      subst same
      exact ⟨stamp, world, mutates, moved, World.mutation_stamped mutates moved, rfl⟩
    · cases step

theorem step_submitPurge {serial now : Nat} {revision : Revision}
    (step : plane.step hasher (.submitPurge serial now revision) = some next) :
    ∃ live ∈ plane.world.leases, live.removed = false ∧
      next = { plane with batches := purgeBatch live.lease now revision :: plane.batches } := by
  simp only [Plane.step] at step
  split at step
  · rename_i found
    obtain rfl := Option.some.inj step
    exact ⟨_, List.mem_of_find?_eq_some found, rfl, rfl⟩
  · cases step

theorem admitCapabilityBoundary_batch {registry : LearnedCapabilityRegistry} {now : Nat}
    {revision : Revision} {queued : Bool} {batch : CapabilityBatch} {receipt : BoundaryReceipt}
    (taken : (admitCapabilityBoundary registry now revision queued).2 = .taken batch receipt) :
    batch.events = boundaryEvents now revision registry.survivors ∧ batch.incarnation = 0 := by
  have cut := registry.withBoundaryCut_taken (Prod.ext rfl taken)
  rw [cut.2.2.2.2.1]
  exact ⟨rfl, rfl⟩

theorem step_submitBoundary {now : Nat} {revision : Revision} {queued : Bool}
    (step : plane.step hasher (.submitBoundary now revision queued) = some next) :
    ∃ world, plane.world.step hasher (.boundaryCut queued) = some world ∧
      next.world = world ∧ next.writer = plane.writer ∧ next.flights = plane.flights ∧
      ∀ batch ∈ next.batches, batch ∈ plane.batches ∨ batch.incarnation = 0 := by
  obtain ⟨world, moved, rfl⟩ := Option.map_eq_some_iff.mp step
  refine ⟨world, moved, rfl, rfl, rfl, ?_⟩
  intro batch member
  dsimp only at member
  split at member
  · rename_i submitted receipt taken
    rcases List.mem_cons.mp member with same | older
    · subst same
      exact .inr (admitCapabilityBoundary_batch taken).2
    · exact .inl older
  · exact .inl member

theorem step_commitBatch {position : Nat} {stored : Bool}
    (step : plane.step hasher (.commitBatch position stored) = some next) :
    ∃ batch, plane.batches[position]? = some batch ∧
      next = { plane with
        writer := (plane.writer.commitCapabilityBatch batch stored).1,
        batches := plane.batches.eraseIdx position } := by
  simp only [Plane.step] at step
  split at step
  · cases step
  · rename_i batch present
    exact ⟨batch, present, (Option.some.inj step).symm⟩

theorem step_deliver {position : Nat} {stored : Bool}
    (step : plane.step hasher (.deliver position stored) = some next) :
    ∃ flight, plane.flights[position]? = some flight ∧
      next = { plane with
        writer := (plane.writer.persistCapabilityEvent flight.event flight.stamp stored).1,
        flights := plane.flights.eraseIdx position } := by
  simp only [Plane.step] at step
  split at step
  · cases step
  · rename_i flight present
    exact ⟨flight, present, (Option.some.inj step).symm⟩

end Steps
end Plane
end Routectl.Ledger
