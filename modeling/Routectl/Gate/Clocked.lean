import Routectl.Gate.ProviderState
import Routectl.Library.Transition
import Mathlib.Tactic.Positivity
import Mathlib.Tactic.Linarith
import Mathlib.Algebra.Order.Field.Rat

/-! A gate under any calls at instants that never go back, and the bounds its
token bucket keeps. -/
namespace Routectl.Gate
open Library

inductive GateCall where
  | tryDispatch
  | tryDispatchProbe
  | recordSuccess
  | recordFailure (outcome : LastOutcome)
  | forceOpen (cooldown : Nat)
  | releaseProbeSlot
deriving Repr, DecidableEq

namespace GateCall

def kind : GateCall → Option AdmissionKind
  | .tryDispatch => some .clientDispatch
  | .tryDispatchProbe => some .backgroundProbe
  | _ => none

def apply (state : ProviderState) (now : Nat) : GateCall → ProviderState
  | .tryDispatch => (state.tryDispatchAdmitting now).1
  | .tryDispatchProbe => (state.tryDispatchProbe now).1
  | .recordSuccess => state.recordSuccess now
  | .recordFailure outcome => (state.recordFailure now outcome).1
  | .forceOpen cooldown => state.forceOpen now cooldown
  | .releaseProbeSlot => state.releaseProbeSlot

def allows (state : ProviderState) (now : Nat) (call : GateCall) : Bool :=
  call.kind.any fun kind => (state.tryDispatchInner now kind).2.decision = .allow

end GateCall

/-- A gate, the instant of its last call, and the instants of the calls it
allowed, latest first. -/
structure ClockedGate where
  gate : ProviderState
  clock : Nat
  allowed : List Nat

namespace ClockedGate

def initial (policy : ProviderRuntimePolicy) (start : Nat) : ClockedGate :=
  { gate := .new policy start, clock := start, allowed := [] }

def step (clocked : ClockedGate) : Nat × GateCall → Option ClockedGate
  | (now, call) =>
    if now < clocked.clock then none
    else
      some
        { gate := call.apply clocked.gate now, clock := now,
          allowed :=
            if call.allows clocked.gate now then now :: clocked.allowed else clocked.allowed }

def machine : Machine ClockedGate (Nat × GateCall) := ⟨step⟩

theorem step_cases {clocked next : ClockedGate} {now : Nat} {call : GateCall}
    (step : machine.step clocked (now, call) = some next) :
    clocked.clock ≤ now ∧ next.gate = call.apply clocked.gate now ∧ next.clock = now ∧
      next.allowed =
        if call.allows clocked.gate now then now :: clocked.allowed else clocked.allowed := by
  simp only [machine, ClockedGate.step] at step
  split at step
  · cases step
  · rename_i forward
    cases Option.some.inj step
    exact ⟨Nat.le_of_not_lt forward, rfl, rfl, rfl⟩

end ClockedGate

namespace ProviderState

/-- The bucket: what the calls that only move the breaker leave alone. -/
structure Bucket where
  capacity : Option Rat
  tokens : Rat
  anchor : Nat

def bucket (state : ProviderState) : Bucket :=
  { capacity := state.rpmCapacity, tokens := state.rpmTokens, anchor := state.rpmLastRefill }

/-- The breaker: what a refused dispatch leaves alone. -/
structure BreakerState where
  openedAt : Option Nat
  cooldown : Nat
  failures : Nat
  halfOpen : Bool
deriving Repr, DecidableEq

def breaker (state : ProviderState) : BreakerState :=
  { openedAt := state.circuitOpenedAt, cooldown := state.activeCooldown,
    failures := state.consecutiveFailures, halfOpen := state.halfOpenInFlight }

variable (state : ProviderState) (now : Nat) (capacity : Rat)

@[simp] theorem refillTokens_capacity :
    (state.refillTokens now capacity).rpmCapacity = state.rpmCapacity := by
  rw [refillTokens]
  split <;> rfl

@[simp] theorem refillTokens_breaker :
    (state.refillTokens now capacity).breaker = state.breaker := by
  rw [refillTokens]
  split <;> rfl

@[simp] theorem refillTokens_tokens :
    (state.refillTokens now capacity).rpmTokens = state.projectedTokens now capacity := by
  rw [refillTokens]
  split
  · rename_i unmeasured
    simp [projectedTokens, unmeasured]
  · rfl

/-- Taking the projection at an instant and looking again at that instant. -/
@[simp] theorem refillTokens_projected :
    (state.refillTokens now capacity).projectedTokens now capacity =
      state.projectedTokens now capacity := by
  by_cases unmeasured : (now - state.rpmLastRefill) / nanosPerMilli = 0
  · simp [refillTokens, unmeasured]
  · simp [refillTokens, projectedTokens, unmeasured]

/-- What a dispatch attempt does: it refuses and leaves the gate alone, it
refuses after a refill that falls short of a token, or it allows. -/
inductive DispatchEffect (kind : AdmissionKind) : ProviderState → GateAdmission → Prop where
  | refused : DispatchEffect kind state (.refused .circuitOpen)
  | dry (capacity : Rat) (limited : state.rpmCapacity = some capacity)
      (short : state.projectedTokens now capacity < 1) :
      DispatchEffect kind (state.refillTokens now capacity) (.refused .rateLimited)
  | unlimited (free : state.rpmCapacity = none) (bit claimed : Bool)
      (probed : kind = .backgroundProbe → bit = state.halfOpenInFlight) :
      DispatchEffect kind { state with halfOpenInFlight := bit } ⟨.allow, claimed⟩
  | charged (capacity : Rat) (limited : state.rpmCapacity = some capacity) (bit claimed : Bool)
      (covered : 1 ≤ state.projectedTokens now capacity)
      (probed : kind = .backgroundProbe → bit = state.halfOpenInFlight) :
      DispatchEffect kind
        { state.refillTokens now capacity with
          rpmTokens := state.projectedTokens now capacity - 1, halfOpenInFlight := bit }
        ⟨.allow, claimed⟩

theorem chargeToken_unlimited (free : state.rpmCapacity = none) (claimed : Bool) :
    state.chargeToken now claimed = (state, ⟨.allow, claimed⟩) := by
  simp only [chargeToken, free]

theorem chargeToken_dry {capacity : Rat} (limited : state.rpmCapacity = some capacity)
    (short : state.projectedTokens now capacity < 1) (claimed : Bool) :
    state.chargeToken now claimed =
      ({ state.refillTokens now capacity with
          halfOpenInFlight := state.halfOpenInFlight && !state.circuitOpenedAt.isSome },
        .refused .rateLimited) := by
  have dry : (state.refillTokens now capacity).rpmTokens < 1 := by
    rw [refillTokens_tokens]
    exact short
  simp only [chargeToken, limited]
  rw [if_pos dry, ← refillTokens_halfOpen state now capacity, ← refillTokens_opened state now capacity]
  cases (state.refillTokens now capacity).circuitOpenedAt.isSome with
  | true => rw [if_pos rfl, Bool.not_true, Bool.and_false]
  | false => rw [if_neg Bool.false_ne_true, Bool.not_false, Bool.and_true]

theorem chargeToken_covered {capacity : Rat} (limited : state.rpmCapacity = some capacity)
    (covered : 1 ≤ state.projectedTokens now capacity) (claimed : Bool) :
    state.chargeToken now claimed =
      ({ state.refillTokens now capacity with
          rpmTokens := state.projectedTokens now capacity - 1 }, ⟨.allow, claimed⟩) := by
  simp only [chargeToken, limited, refillTokens_tokens, not_lt_of_ge covered, if_false]

theorem refillTokens_withBit (bit : Bool) :
    ({ state with halfOpenInFlight := bit } : ProviderState).refillTokens now capacity =
      { state.refillTokens now capacity with halfOpenInFlight := bit } := by
  simp only [refillTokens]
  split <;> rfl

/-- Charging under a bit that the attempt may have set, and hands back when the
bucket of an open breaker is dry. -/
theorem chargeToken_effect {kind : AdmissionKind} {bit claimed : Bool}
    (probed : kind = .backgroundProbe → bit = state.halfOpenInFlight)
    (handsBack : (bit && !state.circuitOpenedAt.isSome) = state.halfOpenInFlight) :
    DispatchEffect state now kind
      (({ state with halfOpenInFlight := bit } : ProviderState).chargeToken now claimed).1
      (({ state with halfOpenInFlight := bit } : ProviderState).chargeToken now claimed).2 := by
  rcases Option.eq_none_or_eq_some state.rpmCapacity with free | ⟨capacity, limited⟩
  · rw [chargeToken_unlimited { state with halfOpenInFlight := bit } now free]
    exact .unlimited free bit claimed probed
  · by_cases short : state.projectedTokens now capacity < 1
    · rw [chargeToken_dry { state with halfOpenInFlight := bit } now limited short,
        refillTokens_withBit]
      have dry : DispatchEffect state now kind _ _ := .dry capacity limited short
      rw [← refillTokens_halfOpen state now capacity] at handsBack
      simpa only [handsBack] using dry
    · have covered := le_of_not_gt short
      rw [chargeToken_covered { state with halfOpenInFlight := bit } now limited covered,
        refillTokens_withBit]
      exact .charged capacity limited bit claimed covered probed

theorem tryDispatchInner_effect (kind : AdmissionKind) :
    DispatchEffect state now kind (state.tryDispatchInner now kind).1
      (state.tryDispatchInner now kind).2 := by
  simp only [tryDispatchInner]
  cases opened : state.circuitOpenedAt with
  | none =>
    exact state.chargeToken_effect now (fun _ => rfl) (by simp [opened])
  | some openedAt =>
    by_cases cooling : now - openedAt < state.activeCooldown
    · simp only [cooling, if_true]
      exact .refused
    · simp only [cooling, if_false]
      cases inFlight : state.halfOpenInFlight with
      | true => exact .refused
      | false =>
        cases kind with
        | backgroundProbe => exact .refused
        | clientDispatch =>
          have charged := @chargeToken_effect state now .clientDispatch true true
            (fun isProbe => by cases isProbe) (by simp [opened, inFlight])
          simpa only [opened, Bool.false_eq_true, if_false] using charged

/-- A level between nothing and the capacity. -/
structure Filled : Prop where
  nonneg : 0 ≤ state.rpmTokens
  atMost : ∀ full, state.rpmCapacity = some full → state.rpmTokens ≤ full

variable {state now capacity}

/-- The projection never falls below the level stored and never rises above the
capacity. -/
theorem projectedTokens_bounds (filled : state.Filled) (limited : state.rpmCapacity = some capacity) :
    state.rpmTokens ≤ state.projectedTokens now capacity ∧
      state.projectedTokens now capacity ≤ capacity := by
  have atMost := filled.atMost capacity limited
  have positive : 0 ≤ capacity := le_trans filled.nonneg atMost
  rw [projectedTokens]
  split
  · exact ⟨le_refl _, atMost⟩
  · constructor
    · apply le_min _ atMost
      have refilled : 0 ≤ capacity / (rpmWindowMs : Rat) *
          (((now - state.rpmLastRefill) / nanosPerMilli : Nat) : Rat) := by positivity
      linarith
    · exact min_le_right _ _

theorem Filled.refill (filled : state.Filled) (limited : state.rpmCapacity = some capacity) :
    (state.refillTokens now capacity).Filled := by
  have bounds : state.rpmTokens ≤ state.projectedTokens now capacity ∧
      state.projectedTokens now capacity ≤ capacity := projectedTokens_bounds filled limited
  constructor
  · rw [refillTokens_tokens]
    exact le_trans filled.nonneg bounds.1
  · intro full found
    rw [refillTokens_capacity, limited] at found
    cases found
    rw [refillTokens_tokens]
    exact bounds.2

theorem Filled.dispatch {kind : AdmissionKind} {after : ProviderState} {admission : GateAdmission}
    (filled : state.Filled) (effect : DispatchEffect state now kind after admission) :
    after.Filled ∧ after.rpmCapacity = state.rpmCapacity := by
  cases effect with
  | refused => exact ⟨filled, rfl⟩
  | dry capacity limited short => exact ⟨filled.refill limited, refillTokens_capacity ..⟩
  | unlimited free bit claimed probed => exact ⟨⟨filled.nonneg, filled.atMost⟩, rfl⟩
  | charged capacity limited bit claimed covered probed =>
    refine ⟨⟨sub_nonneg.mpr covered, ?_⟩, refillTokens_capacity ..⟩
    intro full found
    have refilled : (state.refillTokens now capacity).Filled := filled.refill limited
    have kept := refilled.atMost full found
    rw [refillTokens_tokens] at kept
    exact le_trans (sub_le_self _ zero_le_one) kept

theorem new_filled (policy : ProviderRuntimePolicy) (start : Nat) : (new policy start).Filled := by
  cases limit : policy.rpmLimit with
  | none => constructor <;> simp [new, limit]
  | some bound => constructor <;> simp [new, limit]

end ProviderState

/-- Calls that settle a dispatch move the breaker and leave the bucket alone. -/
theorem GateCall.apply_bucket {call : GateCall} (settles : call.kind = none)
    (state : ProviderState) (now : Nat) : (call.apply state now).bucket = state.bucket := by
  cases call with
  | tryDispatch => cases settles
  | tryDispatchProbe => cases settles
  | recordSuccess => rfl
  | recordFailure outcome =>
    simp only [apply, ProviderState.recordFailure]
    split
    · rfl
    · split <;> rfl
  | forceOpen cooldown => rfl
  | releaseProbeSlot => rfl

theorem GateCall.apply_dispatch {call : GateCall} {kind : AdmissionKind}
    (dispatches : call.kind = some kind) (state : ProviderState) (now : Nat) :
    call.apply state now = (state.tryDispatchInner now kind).1 := by
  cases call with
  | tryDispatch => cases dispatches; rfl
  | tryDispatchProbe => cases dispatches; rfl
  | recordSuccess => cases dispatches
  | recordFailure outcome => cases dispatches
  | forceOpen cooldown => cases dispatches
  | releaseProbeSlot => cases dispatches

theorem GateCall.filled {call : GateCall} {state : ProviderState} {now : Nat}
    (filled : state.Filled) :
    (call.apply state now).Filled ∧ (call.apply state now).rpmCapacity = state.rpmCapacity := by
  cases dispatches : call.kind with
  | some kind =>
    rw [call.apply_dispatch dispatches]
    exact filled.dispatch (state.tryDispatchInner_effect now kind)
  | none =>
    have same := call.apply_bucket dispatches state now
    have tokens : (call.apply state now).rpmTokens = state.rpmTokens :=
      congrArg ProviderState.Bucket.tokens same
    have capacity : (call.apply state now).rpmCapacity = state.rpmCapacity :=
      congrArg ProviderState.Bucket.capacity same
    refine ⟨⟨tokens ▸ filled.nonneg, ?_⟩, capacity⟩
    intro full found
    rw [tokens]
    exact filled.atMost full (capacity ▸ found)

/-- The bucket holds between nothing and its capacity, which never changes. -/
theorem ClockedGate.filled_of_run {policy : ProviderRuntimePolicy} {start : Nat}
    {calls : List (Nat × GateCall)} {met : ClockedGate}
    (reached : ClockedGate.machine.run (.initial policy start) calls = some met) :
    met.gate.Filled ∧
      met.gate.rpmCapacity = policy.rpmLimit.map fun limit => (limit : Rat) := by
  have preserves : ClockedGate.machine.Preserves fun clocked =>
      clocked.gate.Filled ∧
        clocked.gate.rpmCapacity = policy.rpmLimit.map fun limit => (limit : Rat) := by
    rintro clocked ⟨now, call⟩ next ⟨filled, capacity⟩ step
    obtain ⟨_, gate, _, _⟩ := ClockedGate.step_cases step
    obtain ⟨filledNext, kept⟩ := @GateCall.filled call _ now filled
    rw [gate]
    exact ⟨filledNext, kept.trans capacity⟩
  exact preserves.run _ ⟨ProviderState.new_filled policy start, rfl⟩ reached

end Routectl.Gate
