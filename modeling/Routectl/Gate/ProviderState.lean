import Mathlib.Algebra.Order.Ring.Rat
import Mathlib.Algebra.Ring.Nat
import Mathlib.Data.Rat.Defs

/-! The runtime gate of one model: a token bucket and a passive circuit breaker
under a single lock. Instants are nanoseconds; token counts are exact. -/
namespace Routectl.Gate

inductive LastOutcome where
  | ok
  | rateLimited
  | timeout
  | transportError
  | http4xx
  | http5xx
  | circuitOpen
deriving Repr, DecidableEq

inductive GateDecision where
  | allow
  | rateLimited
  | circuitOpen
deriving Repr, DecidableEq

inductive AdmissionKind where
  | clientDispatch
  | backgroundProbe
deriving Repr, DecidableEq

/-- One gate answer. The claim is a fact about the call that took it, never a
later reading of the shared bit. -/
structure GateAdmission where
  decision : GateDecision
  claimedHalfOpen : Bool
deriving Repr, DecidableEq

def GateAdmission.refused (decision : GateDecision) : GateAdmission :=
  { decision, claimedHalfOpen := false }

structure ProviderRuntimePolicy where
  rpmLimit : Option Nat
  circuitFailures : Option Nat
  circuitCooldownMs : Option Nat
deriving Repr, DecidableEq

structure ProviderState where
  rpmCapacity : Option Rat
  rpmTokens : Rat
  rpmLastRefill : Nat
  circuitFailureThreshold : Option Nat
  circuitCooldown : Nat
  activeCooldown : Nat
  consecutiveFailures : Nat
  circuitOpenedAt : Option Nat
  halfOpenInFlight : Bool
  lastOutcome : Option LastOutcome
  lastOutcomeAt : Option Nat

def defaultCircuitCooldownMs : Nat := 30000
def rpmWindowMs : Nat := 60000
def nanosPerMilli : Nat := 1000000

namespace ProviderState

def new (policy : ProviderRuntimePolicy) (now : Nat) : ProviderState :=
  let circuitCooldown := policy.circuitCooldownMs.getD defaultCircuitCooldownMs * nanosPerMilli
  { rpmCapacity := policy.rpmLimit.map fun limit => (limit : Rat),
    rpmTokens := policy.rpmLimit.elim 0 fun limit => (limit : Rat),
    rpmLastRefill := now,
    circuitFailureThreshold := policy.circuitFailures,
    circuitCooldown,
    activeCooldown := circuitCooldown,
    consecutiveFailures := 0,
    circuitOpenedAt := none,
    halfOpenInFlight := false,
    lastOutcome := none,
    lastOutcomeAt := none }

def projectedTokens (state : ProviderState) (now : Nat) (capacity : Rat) : Rat :=
  let elapsedMs := (now - state.rpmLastRefill) / nanosPerMilli
  if elapsedMs = 0 then state.rpmTokens
  else min (capacity / (rpmWindowMs : Rat) * (elapsedMs : Rat) + state.rpmTokens) capacity

def refillTokens (state : ProviderState) (now : Nat) (capacity : Rat) : ProviderState :=
  if (now - state.rpmLastRefill) / nanosPerMilli = 0 then state
  else { state with rpmTokens := state.projectedTokens now capacity, rpmLastRefill := now }

/-- The RPM check, after the breaker let the call through. A refusal hands back
a claim just taken. -/
def chargeToken (state : ProviderState) (now : Nat) (claimedHalfOpen : Bool) :
    ProviderState × GateAdmission :=
  match state.rpmCapacity with
  | none => (state, { decision := .allow, claimedHalfOpen })
  | some capacity =>
    let refilled := state.refillTokens now capacity
    if refilled.rpmTokens < 1 then
      if refilled.circuitOpenedAt.isSome then
        ({ refilled with halfOpenInFlight := false }, .refused .rateLimited)
      else (refilled, .refused .rateLimited)
    else
      ({ refilled with rpmTokens := refilled.rpmTokens - 1 }, { decision := .allow, claimedHalfOpen })

def tryDispatchInner (state : ProviderState) (now : Nat) (kind : AdmissionKind) :
    ProviderState × GateAdmission :=
  match state.circuitOpenedAt with
  | none => state.chargeToken now false
  | some openedAt =>
    if now - openedAt < state.activeCooldown then (state, .refused .circuitOpen)
    else if state.halfOpenInFlight then (state, .refused .circuitOpen)
    else
      match kind with
      | .backgroundProbe => (state, .refused .circuitOpen)
      | .clientDispatch => { state with halfOpenInFlight := true }.chargeToken now true

def tryDispatchAdmitting (state : ProviderState) (now : Nat) : ProviderState × GateAdmission :=
  state.tryDispatchInner now .clientDispatch

def tryDispatchProbe (state : ProviderState) (now : Nat) : ProviderState × GateAdmission :=
  state.tryDispatchInner now .backgroundProbe

def recordSuccess (state : ProviderState) (now : Nat) : ProviderState :=
  { state with
    consecutiveFailures := 0, circuitOpenedAt := none, halfOpenInFlight := false,
    activeCooldown := state.circuitCooldown, lastOutcome := some .ok, lastOutcomeAt := some now }

/-- Also reports whether this failure opened the breaker. -/
def recordFailure (state : ProviderState) (now : Nat) (outcome : LastOutcome) :
    ProviderState × Bool :=
  let wasHalfOpenProbe := state.halfOpenInFlight
  let failures := min (state.consecutiveFailures + 1) (2 ^ 32 - 1)
  let stamped :=
    { state with
      halfOpenInFlight := false, lastOutcome := some outcome, lastOutcomeAt := some now,
      consecutiveFailures := failures }
  match state.circuitFailureThreshold with
  | none => (stamped, false)
  | some threshold =>
    if wasHalfOpenProbe || threshold ≤ failures then
      ({ stamped with circuitOpenedAt := some now, activeCooldown := state.circuitCooldown }, true)
    else (stamped, false)

def forceOpen (state : ProviderState) (now cooldown : Nat) : ProviderState :=
  { state with circuitOpenedAt := some now, activeCooldown := cooldown, halfOpenInFlight := false }

def releaseProbeSlot (state : ProviderState) : ProviderState :=
  { state with halfOpenInFlight := false }

section Slot
variable (state : ProviderState) (now : Nat)

@[simp] theorem refillTokens_halfOpen (capacity : Rat) :
    (state.refillTokens now capacity).halfOpenInFlight = state.halfOpenInFlight := by
  unfold refillTokens
  split <;> rfl

@[simp] theorem refillTokens_opened (capacity : Rat) :
    (state.refillTokens now capacity).circuitOpenedAt = state.circuitOpenedAt := by
  unfold refillTokens
  split <;> rfl

/-- An allowed charge keeps the bit and reports the claim it was given; a
refused one claims nothing and clears the bit of an open breaker. -/
theorem chargeToken_cases (claimed : Bool) :
    ((state.chargeToken now claimed).2 = ⟨.allow, claimed⟩ ∧
      (state.chargeToken now claimed).1.halfOpenInFlight = state.halfOpenInFlight) ∨
    ((state.chargeToken now claimed).2 = .refused .rateLimited ∧
      (state.chargeToken now claimed).1.halfOpenInFlight =
        (state.halfOpenInFlight && !state.circuitOpenedAt.isSome)) := by
  unfold chargeToken
  split
  · exact .inl ⟨rfl, rfl⟩
  · dsimp only
    split
    · right
      split
      · rename_i opened
        simp only [refillTokens_opened] at opened
        simp [opened]
      · rename_i closed
        simp only [refillTokens_opened] at closed
        simp [closed]
    · left
      simp

/-- What a dispatch attempt does to the half-open bit: it claims a clear bit and
sets it, or it claims nothing and leaves the bit alone. -/
theorem tryDispatchInner_cases (kind : AdmissionKind) :
    ((state.tryDispatchInner now kind).2 = ⟨.allow, true⟩ ∧ state.halfOpenInFlight = false ∧
      (state.tryDispatchInner now kind).1.halfOpenInFlight = true) ∨
    ((state.tryDispatchInner now kind).2.claimedHalfOpen = false ∧
      (state.tryDispatchInner now kind).1.halfOpenInFlight = state.halfOpenInFlight) := by
  unfold tryDispatchInner
  split
  · rename_i closed
    right
    rcases state.chargeToken_cases now false with ⟨admission, bit⟩ | ⟨admission, bit⟩
    · exact ⟨by rw [admission], bit⟩
    · refine ⟨by rw [admission]; rfl, ?_⟩
      rw [bit, closed]
      simp
  · rename_i openedAt opened
    split
    · exact .inr ⟨rfl, rfl⟩
    · split
      · exact .inr ⟨rfl, rfl⟩
      · rename_i bitClear
        have clear : state.halfOpenInFlight = false := by simpa using bitClear
        cases kind with
        | backgroundProbe => exact .inr ⟨rfl, rfl⟩
        | clientDispatch =>
          have charged := chargeToken_cases { state with halfOpenInFlight := true } now true
          rcases charged with ⟨admission, bit⟩ | ⟨admission, bit⟩
          · exact .inl ⟨admission, clear, bit⟩
          · right
            refine ⟨by rw [admission]; rfl, ?_⟩
            rw [bit, clear]
            simp [opened]

end Slot
end ProviderState
end Routectl.Gate
