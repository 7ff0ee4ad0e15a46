import Mathlib.Logic.Function.Basic
import Routectl.Library.Transition
import Routectl.Usage.PaidProbe

/-! The lifecycle gate around a reservation, and the writers that spend under it: each
gated section and each transaction is one step. -/
namespace Routectl.Usage
open Library Registry

inductive PaidProbeCommit where
  | committed (used cap : Nat)
  | capExhausted
  | malformedState
  | writeFailed
  | unavailable
deriving Repr, DecidableEq

def commitFor : StoredReservation → PaidProbeCommit
  | .committed _ used cap => .committed used cap
  | .capExhausted => .capExhausted
  | .malformedState => .malformedState
  | .writeFailed => .writeFailed

inductive Lifecycle where
  | running
  | terminal
deriving Repr, DecidableEq

inductive GateReading where
  | live (lifecycle : Lifecycle)
  | unknown
deriving Repr, DecidableEq

def forbidsAuthorization : GateReading → Bool
  | .live .running => false
  | .live .terminal | .unknown => true

/-- A lock over the lifecycle, poisoned by a holder that panicked. -/
structure LifecycleGate where
  state : Lifecycle
  poisoned : Bool
deriving Repr, DecidableEq

namespace LifecycleGate

def fresh : LifecycleGate := ⟨.running, false⟩

variable (gate : LifecycleGate)

def isTerminal : Bool :=
  forbidsAuthorization (if gate.poisoned then .unknown else .live gate.state)

def beginShutdown : LifecycleGate := { gate with state := .terminal }

/-- The check and the answer, in one critical section. -/
def answerUnlessTerminal (outcome : PaidProbeCommit) : PaidProbeCommit × Bool :=
  if gate.isTerminal then (.unavailable, false) else (outcome, true)

end LifecycleGate

structure PaidProbeCommand where
  provider : String
  cap : Nat
deriving Repr, DecidableEq

/-- How far a writer is with its command; `unit` numbers the transaction's commit. -/
inductive Stage where
  | idle
  | admitted (command : PaidProbeCommand)
  | reserved (command : PaidProbeCommand) (outcome : PaidProbeCommit) (unit : Nat)
deriving Repr, DecidableEq

/-- One unit a transaction committed. -/
structure Spend where
  writer : Nat
  provider : String
  utcDay : Int
  used : Nat
  cap : Nat
deriving Repr, DecidableEq

/-- One `committed` answer a caller was handed. -/
structure Delivery where
  writer : Nat
  provider : String
  used : Nat
  cap : Nat
  unit : Nat
deriving Repr, DecidableEq

/-- `spends` in the order their transactions committed, `delivered` in the order the
answers were sent. -/
structure Reservations where
  stored : Meta
  gates : Nat → LifecycleGate
  stages : Nat → Stage
  spends : List Spend
  delivered : List Delivery

inductive ReservationAction where
  | submit (writer : Nat) (command : PaidProbeCommand)
  | transact (writer : Nat) (nowEpochMs : Int) (fault : Option StorageFault)
  | answer (writer : Nat)
  | beginShutdown (gate : Nat)
  | poison (gate : Nat)

namespace Reservations

def initial (stored : Meta) : Reservations :=
  { stored, gates := fun _ => .fresh, stages := fun _ => .idle, spends := [], delivered := [] }

variable (gateOf : Nat → Nat) (reservations : Reservations)

def atStage (writer : Nat) (stage : Stage) : Reservations :=
  { reservations with stages := Function.update reservations.stages writer stage }

/-- One writer runs one command at a time; any number of writers share the database,
and `gateOf` says which gate each answers under. -/
def step : ReservationAction → Option Reservations
  | .submit writer command =>
    match reservations.stages writer with
    | .idle =>
      if (reservations.gates (gateOf writer)).isTerminal then some reservations
      else some (reservations.atStage writer (.admitted command))
    | _ => none
  | .transact writer nowEpochMs fault =>
    match reservations.stages writer with
    | .admitted command =>
      let (stored, outcome) :=
        reserveOneUnit reservations.stored command.provider command.cap nowEpochMs fault
      let spends :=
        match outcome with
        | .committed utcDay used cap =>
          reservations.spends ++ [⟨writer, command.provider, utcDay, used, cap⟩]
        | _ => reservations.spends
      some { reservations.atStage writer
          (.reserved command (commitFor outcome) reservations.spends.length) with
        stored, spends }
    | _ => none
  | .answer writer =>
    match reservations.stages writer with
    | .reserved command outcome unit =>
      let delivered :=
        match (reservations.gates (gateOf writer)).answerUnlessTerminal outcome with
        | (.committed used cap, true) =>
          reservations.delivered ++ [⟨writer, command.provider, used, cap, unit⟩]
        | _ => reservations.delivered
      some { reservations.atStage writer .idle with delivered }
    | _ => none
  | .beginShutdown gate =>
    some { reservations with
      gates := Function.update reservations.gates gate (reservations.gates gate).beginShutdown }
  | .poison gate =>
    some { reservations with
      gates := Function.update reservations.gates gate
        { reservations.gates gate with poisoned := true } }

def machine : Machine Reservations ReservationAction := ⟨step gateOf⟩

end Reservations

/-- What a reservation did: committed one unit past the stored count, or nothing. -/
inductive Reserved (stored : Meta) (provider : String) (cap : Nat) (utcDay : Int) :
    Meta → StoredReservation → Prop where
  | refused {outcome : StoredReservation}
      (uncommitted : ∀ day used cap, outcome ≠ .committed day used cap) :
      Reserved stored provider cap utcDay stored outcome
  | committed (used : Nat)
      (counted : stored.lookup (reservationKey utcDay provider) = some (formatUnits used) ∨
        stored.lookup (reservationKey utcDay provider) = none ∧ used = 0)
      (small : used + 1 ≤ u32Max) (within : used + 1 ≤ cap) :
      Reserved stored provider cap utcDay
        (stored.insert (reservationKey utcDay provider) (formatUnits (used + 1)))
        (.committed utcDay (used + 1) cap)

theorem reserveOneUnit_reserved (stored : Meta) (provider : String) (cap : Nat)
    (nowEpochMs : Int) (fault : Option StorageFault) :
    Reserved stored provider cap (utcDayFromEpochMs nowEpochMs)
      (reserveOneUnit stored provider cap nowEpochMs fault).1
      (reserveOneUnit stored provider cap nowEpochMs fault).2 := by
  unfold reserveOneUnit
  dsimp only
  split
  · exact .refused (by simp)
  · split
    · exact .refused (by simp)
    · rename_i used parsed
      split
      · exact .refused (by simp)
      · rename_i small
        split
        · exact .refused (by simp)
        · rename_i within
          split
          · exact .refused (by simp)
          · refine .committed used ?_ (Nat.not_lt.mp small) (Nat.not_lt.mp within)
            cases found : stored.lookup
                (reservationKey (utcDayFromEpochMs nowEpochMs) provider) with
            | none =>
              right
              rw [found] at parsed
              exact ⟨rfl, (Except.ok.inj parsed).symm⟩
            | some raw =>
              left
              rw [found] at parsed
              rw [(parseUnits_ok_iff.mp parsed).2]

/-- A count the formatter would not have written is refused, and stays as it is. -/
theorem reserveOneUnit_malformed {stored : Meta} {provider raw : String} {cap : Nat}
    {nowEpochMs : Int} {fault : Option StorageFault}
    (found : stored.lookup (reservationKey (utcDayFromEpochMs nowEpochMs) provider) = some raw)
    (malformed : ∀ units ≤ u32Max, raw ≠ formatUnits units) :
    reserveOneUnit stored provider cap nowEpochMs fault = (stored, .malformedState) ∨
      fault ≠ none ∧
        reserveOneUnit stored provider cap nowEpochMs fault = (stored, .writeFailed) := by
  unfold reserveOneUnit
  dsimp only
  split
  · rename_i failed
    right
    refine ⟨?_, rfl⟩
    rintro rfl
    simp at failed
  · left
    rw [found]
    cases parsed : parseUnits raw with
    | error fault => simp [parsed]
    | ok units =>
      obtain ⟨small, same⟩ := parseUnits_ok_iff.mp parsed
      exact absurd same (malformed units small)

end Routectl.Usage
