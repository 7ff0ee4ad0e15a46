import Routectl.Core.Capability
import Routectl.Library.KeyedMap
import Routectl.Registry.Entry

/-! Canary and confirmation-quorum state, one slot a verdict identity, each operation
one critical section. -/
namespace Routectl.Canary
open Routectl.Core Library Registry

def canaryInterval : Nat := 100

inductive CanaryOutcome where
  | confirmed
  | regressed
  | inconclusive
deriving Repr, DecidableEq

structure ConfirmationAck where
  accepted : Bool
  confirmations : Nat
deriving Repr, DecidableEq

structure CanaryState where
  incarnation : Nat
  confirmations : Nat
  cadence : Nat
  due : Bool
  outstanding : Nat
  modifiedSinceConfirmation : Nat
  canaryClaimed : Bool
  preflightSuspended : Bool
  lastOutcome : Option CanaryOutcome
deriving Repr, DecidableEq

namespace CanaryState

def fresh (incarnation confirmations : Nat) : CanaryState :=
  { incarnation, confirmations, cadence := canaryInterval, due := false, outstanding := 0,
    modifiedSinceConfirmation := 0, canaryClaimed := false, preflightSuspended := false,
    lastOutcome := none }

variable (entry : CanaryState)

/-- Vouch for every request modified since the previous confirmation. -/
def applyConfirmed : CanaryState :=
  { entry with cadence := canaryInterval, modifiedSinceConfirmation := 0 }

/-- Suspend, and take the affected-request tally for the alarm. -/
def applyRegressed : CanaryState × Nat :=
  ({ entry with preflightSuspended := true, modifiedSinceConfirmation := 0 },
    entry.modifiedSinceConfirmation)

end CanaryState

inductive IncarnationOrder where
  | newer
  | current
  | stale
deriving Repr, DecidableEq

structure CanaryClaimGuard where
  key : FieldVerdictKey
  incarnation : Nat
deriving Repr, DecidableEq

structure ModifiedRequestGuard where
  key : FieldVerdictKey
  incarnation : Nat
deriving Repr, DecidableEq

structure FieldCanaryRegistry where
  states : KeyedMap FieldVerdictKey CanaryState
  disprovedRequestsTotal : Nat

namespace FieldCanaryRegistry

def new : FieldCanaryRegistry := { states := ∅, disprovedRequestsTotal := 0 }

def admitIncarnation (entry : CanaryState) (incarnation confirmations : Nat) :
    CanaryState × IncarnationOrder :=
  if entry.incarnation < incarnation then (.fresh incarnation confirmations, .newer)
  else if incarnation = entry.incarnation then (entry, .current)
  else (entry, .stale)

variable (registry : FieldCanaryRegistry) (key : FieldVerdictKey) (incarnation : Nat)

/-- The slot of `key`, seeded where it is empty, as a caller at `incarnation` finds it. -/
def admitted (confirmations : Nat) : CanaryState × IncarnationOrder :=
  admitIncarnation ((registry.states.lookup key).getD (.fresh incarnation confirmations)) incarnation
    confirmations

def store (entry : CanaryState) : FieldCanaryRegistry :=
  { registry with states := registry.states.insert key entry }

def acknowledgeConfirmation (observations : Nat) : FieldCanaryRegistry × ConfirmationAck :=
  match registry.admitted key incarnation observations with
  | (entry, .stale) => (registry, ⟨false, entry.confirmations⟩)
  | (entry, _) => (registry.store key { entry with confirmations := observations }, ⟨true, observations⟩)

def reset : FieldCanaryRegistry := { registry with states := registry.states.erase key }

/-- A trip leaves the identity due until a claim consumes it. -/
def tickCadence : FieldCanaryRegistry × Bool :=
  match registry.admitted key incarnation 0 with
  | (_, .stale) => (registry, false)
  | (entry, _) =>
    let ticked :=
      if entry.cadence ≤ 1 then { entry with cadence := canaryInterval, due := true }
      else { entry with cadence := entry.cadence - 1 }
    (registry.store key ticked, ticked.due)

def beginModifiedRequest : FieldCanaryRegistry × Option ModifiedRequestGuard :=
  match registry.admitted key incarnation 0 with
  | (_, .stale) => (registry, none)
  | (entry, _) =>
    (registry.store key
      { entry with
        outstanding := min (entry.outstanding + 1) u64Max,
        modifiedSinceConfirmation := min (entry.modifiedSinceConfirmation + 1) u64Max },
      some ⟨key, incarnation⟩)

/-- Change the slot of `key` where it still stands at `incarnation`. -/
def settleOwned (change : CanaryState → CanaryState) : FieldCanaryRegistry :=
  match registry.states.lookup key with
  | none => registry
  | some entry => if entry.incarnation ≠ incarnation then registry else registry.store key (change entry)

def endModifiedRequest : FieldCanaryRegistry :=
  registry.settleOwned key incarnation fun entry => { entry with outstanding := entry.outstanding - 1 }

def claimCanary : FieldCanaryRegistry × Option CanaryClaimGuard :=
  match registry.admitted key incarnation 0 with
  | (_, .stale) => (registry, none)
  | (entry, _) =>
    if entry.canaryClaimed then (registry.store key entry, none)
    else
      (registry.store key { entry with canaryClaimed := true, due := false },
        some ⟨key, incarnation⟩)

def settleConfirmedAndCarry (plannedIncarnation mintedIncarnation : Nat) : FieldCanaryRegistry :=
  registry.settleOwned key plannedIncarnation fun entry =>
    { ({ entry with canaryClaimed := false, lastOutcome := some .confirmed } :
        CanaryState).applyConfirmed with
      outstanding := 0, incarnation := mintedIncarnation }

/-- Move the tally of `entry` into the lifetime alarm, which wraps as its word does. -/
def chargeRegressed (entry : CanaryState) : FieldCanaryRegistry :=
  let (suspended, affected) :=
    ({ entry with canaryClaimed := false, lastOutcome := some .regressed } :
      CanaryState).applyRegressed
  { registry.store key suspended with
    disprovedRequestsTotal := (registry.disprovedRequestsTotal + affected) % 2 ^ 64 }

def settleCanary (outcome : CanaryOutcome) : FieldCanaryRegistry :=
  match registry.states.lookup key with
  | none => registry
  | some entry =>
    if entry.incarnation ≠ incarnation then registry
    else
      let released := { entry with canaryClaimed := false, lastOutcome := some outcome }
      match outcome with
      | .confirmed => registry.store key released.applyConfirmed
      | .regressed => registry.chargeRegressed key entry
      | .inconclusive => registry.store key { released with cadence := canaryInterval }

def settleDisprovedIfCurrent : FieldCanaryRegistry × Bool :=
  match registry.states.lookup key with
  | none => (registry, false)
  | some entry =>
    if entry.incarnation ≠ incarnation then (registry, false)
    else (registry.chargeRegressed key entry, true)

def releaseCanaryClaim : FieldCanaryRegistry :=
  registry.settleOwned key incarnation fun entry => { entry with canaryClaimed := false }

def seedFromRebuild (confirmations : Nat) (dueImmediately : Bool) : FieldCanaryRegistry :=
  let state := CanaryState.fresh incarnation confirmations
  registry.store key (if dueImmediately then { state with cadence := 1 } else state)

def snapshot : Option CanaryState := registry.states.lookup key

end FieldCanaryRegistry
end Routectl.Canary
