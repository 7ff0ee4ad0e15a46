import Routectl.Gate.Clocked

/-! How many calls the token bucket lets through in any interval. The anchor
may stand up to a millisecond before a call it did not move for, so an interval
counts as its whole milliseconds rounded up. -/
namespace Routectl.Gate
open Library

/-- Whole milliseconds, rounded up. -/
def ceilMs (nanos : Nat) : Nat := (nanos + (nanosPerMilli - 1)) / nanosPerMilli

/-- The tokens that a limit refills over some milliseconds. -/
def refillOver (limit : Nat) (ms : Nat) : Rat := (limit : Rat) / (rpmWindowMs : Rat) * (ms : Rat)

theorem refillOver_mono {limit earlier later : Nat} (le : earlier ≤ later) :
    refillOver limit earlier ≤ refillOver limit later := by
  apply mul_le_mul_of_nonneg_left (Nat.cast_le.mpr le)
  positivity

theorem refillOver_add (limit first second : Nat) :
    refillOver limit (first + second) = refillOver limit first + refillOver limit second := by
  simp only [refillOver, Nat.cast_add, mul_add]

theorem ceilMs_mono {earlier later : Nat} (le : earlier ≤ later) : ceilMs earlier ≤ ceilMs later := by
  apply Nat.div_le_div_right
  omega

/-- What the refill from an anchor counts, beside what was due up to it. -/
theorem ceilMs_refill {opens anchor now : Nat} (near : opens < anchor + nanosPerMilli)
    (measured : (now - anchor) / nanosPerMilli ≠ 0) :
    ceilMs (anchor - opens) + (now - anchor) / nanosPerMilli ≤ ceilMs (now - opens) := by
  simp only [ceilMs, nanosPerMilli] at *
  omega

namespace ClockedGate

/-- The calls allowed at instants of an interval. -/
def allowedWithin (opens closes : Nat) (clocked : ClockedGate) : Nat :=
  clocked.allowed.countP fun instant => opens ≤ instant ∧ instant ≤ closes

end ClockedGate

variable {limit opens closes : Nat}

/-- Calls already counted and tokens still stored, against the capacity and the
refill due since the interval opened. -/
structure Funded (limit opens counted : Nat) (state : ProviderState) : Prop where
  near : opens < state.rpmLastRefill + nanosPerMilli
  covered : (counted : Rat) + state.rpmTokens ≤
    limit + refillOver limit (ceilMs (state.rpmLastRefill - opens))

theorem Funded.refill {counted : Nat} {state : ProviderState} {now : Nat}
    (funded : Funded limit opens counted state) :
    Funded limit opens counted (state.refillTokens now limit) := by
  rw [ProviderState.refillTokens]
  split
  · exact funded
  · rename_i measured
    constructor
    · have late := ceilMs_refill funded.near measured
      have near := funded.near
      simp only [nanosPerMilli] at near measured ⊢
      omega
    · have due := @refillOver_mono limit _ _ (ceilMs_refill funded.near measured)
      rw [refillOver_add] at due
      have projected : state.projectedTokens now limit ≤
          refillOver limit ((now - state.rpmLastRefill) / nanosPerMilli) + state.rpmTokens := by
        rw [ProviderState.projectedTokens, if_neg measured]
        exact min_le_left _ _
      have covered := funded.covered
      show (counted : Rat) + state.projectedTokens now limit ≤
        limit + refillOver limit (ceilMs (now - opens))
      linarith

theorem Funded.weaken {counted : Nat} {before after : ProviderState}
    (funded : Funded limit opens counted before) (anchor : after.rpmLastRefill = before.rpmLastRefill)
    (tokens : after.rpmTokens ≤ before.rpmTokens) : Funded limit opens counted after := by
  constructor
  · rw [anchor]
    exact funded.near
  · have covered := funded.covered
    rw [anchor]
    linarith

/-- The first counted call of an interval is paid from at most a full bucket,
whose anchor stands less than a millisecond before it. -/
theorem Funded.first {state : ProviderState} {now : Nat} (filled : state.Filled)
    (limited : state.rpmCapacity = some (limit : Rat)) (opened : opens ≤ now) :
    Funded limit opens 0 (state.refillTokens now limit) := by
  constructor
  · rw [ProviderState.refillTokens]
    split
    · rename_i unmeasured
      simp only [nanosPerMilli] at unmeasured ⊢
      omega
    · simp only [nanosPerMilli]
      omega
  · have refilled : (state.refillTokens now limit).Filled := filled.refill limited
    have atMost := refilled.atMost limit
      ((ProviderState.refillTokens_capacity ..).trans limited)
    have due : 0 ≤ refillOver limit
        (ceilMs ((state.refillTokens now limit).rpmLastRefill - opens)) := by
      simp only [refillOver]
      positivity
    simp only [Nat.cast_zero]
    linarith

theorem Funded.charge {counted : Nat} {before after : ProviderState}
    (funded : Funded limit opens counted before) (anchor : after.rpmLastRefill = before.rpmLastRefill)
    (tokens : after.rpmTokens = before.rpmTokens - 1) :
    Funded limit opens (counted + 1) after := by
  constructor
  · rw [anchor]
    exact funded.near
  · have covered := funded.covered
    rw [anchor, tokens, Nat.cast_add, Nat.cast_one]
    linarith

/-- No call of the interval was counted yet, or those counted are funded. -/
def Paid (limit opens counted : Nat) (state : ProviderState) : Prop :=
  counted = 0 ∨ Funded limit opens counted state

theorem Paid.refill {counted : Nat} {state : ProviderState} {now : Nat}
    (paid : Paid limit opens counted state) :
    Paid limit opens counted (state.refillTokens now limit) :=
  paid.imp_right Funded.refill

theorem Paid.weaken {counted : Nat} {before after : ProviderState}
    (paid : Paid limit opens counted before) (anchor : after.rpmLastRefill = before.rpmLastRefill)
    (tokens : after.rpmTokens ≤ before.rpmTokens) : Paid limit opens counted after :=
  paid.imp_right fun funded => funded.weaken anchor tokens

/-- Tokens are never owed, so what is paid keeps to the capacity and the refill
of the interval. -/
theorem Paid.bound {counted : Nat} {state : ProviderState} (paid : Paid limit opens counted state)
    (filled : state.Filled) (within : state.rpmLastRefill ≤ closes) :
    (counted : Rat) ≤ limit + refillOver limit (ceilMs (closes - opens)) := by
  have due : 0 ≤ refillOver limit (ceilMs (closes - opens)) := by
    simp only [refillOver]
    positivity
  rcases paid with none | funded
  · rw [none, Nat.cast_zero]
    positivity
  · have covered := funded.covered
    have nonneg := filled.nonneg
    have later : state.rpmLastRefill - opens ≤ closes - opens := by omega
    have more := @refillOver_mono limit _ _ (ceilMs_mono later)
    linarith

/-- What holds of a limited gate at every point of a run, about one interval. -/
structure Bounded (limit opens closes : Nat) (clocked : ClockedGate) : Prop where
  filled : clocked.gate.Filled
  limited : clocked.gate.rpmCapacity = some (limit : Rat)
  anchored : clocked.gate.rpmLastRefill ≤ clocked.clock
  paid : clocked.clock ≤ closes → Paid limit opens (clocked.allowedWithin opens closes) clocked.gate
  bounded : (clocked.allowedWithin opens closes : Rat) ≤
    limit + refillOver limit (ceilMs (closes - opens))

/-- The bound follows from what is paid while the interval is open, and from the
bound before once no more calls count. -/
theorem Bounded.mk_of_paid {clocked next : ClockedGate} (before : Bounded limit opens closes clocked)
    (filled : next.gate.Filled) (limited : next.gate.rpmCapacity = some (limit : Rat))
    (anchored : next.gate.rpmLastRefill ≤ next.clock)
    (paid : next.clock ≤ closes → Paid limit opens (next.allowedWithin opens closes) next.gate)
    (closed : closes < next.clock →
      next.allowedWithin opens closes = clocked.allowedWithin opens closes) :
    Bounded limit opens closes next := by
  refine ⟨filled, limited, anchored, paid, ?_⟩
  rcases Nat.lt_or_ge closes next.clock with exceeds | still
  · rw [closed exceeds]
    exact before.bounded
  · exact (paid still).bound filled (le_trans anchored still)

theorem allowedWithin_kept {clocked next : ClockedGate} (same : next.allowed = clocked.allowed) :
    next.allowedWithin opens closes = clocked.allowedWithin opens closes := by
  rw [ClockedGate.allowedWithin, same, ClockedGate.allowedWithin]

theorem allowedWithin_cons {clocked next : ClockedGate} {now : Nat}
    (grown : next.allowed = now :: clocked.allowed) :
    next.allowedWithin opens closes =
      clocked.allowedWithin opens closes + if opens ≤ now ∧ now ≤ closes then 1 else 0 := by
  simp only [ClockedGate.allowedWithin, grown, List.countP_cons, decide_eq_true_eq]

theorem refillTokens_anchor (state : ProviderState) {now : Nat} (capacity : Rat)
    (anchored : state.rpmLastRefill ≤ now) :
    (state.refillTokens now capacity).rpmLastRefill ≤ now := by
  rw [ProviderState.refillTokens]
  split
  · exact anchored
  · exact le_refl _

/-- One dispatch attempt. -/
theorem Bounded.dispatch {clocked next : ClockedGate} {now : Nat} {kind : AdmissionKind}
    {admission : GateAdmission} (before : Bounded limit opens closes clocked)
    (forward : clocked.clock ≤ now) (clock : next.clock = now)
    (effect : ProviderState.DispatchEffect clocked.gate now kind next.gate admission)
    (allowed : next.allowed =
      if admission.decision = .allow then now :: clocked.allowed else clocked.allowed) :
    Bounded limit opens closes next := by
  have anchored := le_trans before.anchored forward
  have paidNow (within : next.clock ≤ closes) :
      Paid limit opens (clocked.allowedWithin opens closes) clocked.gate :=
    before.paid (le_trans forward (clock ▸ within))
  obtain ⟨filled, kept⟩ := before.filled.dispatch effect
  apply before.mk_of_paid filled (kept.trans before.limited)
  · rw [clock]
    generalize next.gate = after at effect
    cases effect with
    | refused => exact anchored
    | dry capacity limited short => exact refillTokens_anchor _ capacity anchored
    | unlimited free bit claimed probed => exact anchored
    | charged capacity limited bit claimed covered probed =>
      exact refillTokens_anchor _ capacity anchored
  · intro within
    have paid := paidNow within
    generalize next.gate = after at effect
    cases effect with
    | refused =>
      rw [allowedWithin_kept allowed]
      exact paid
    | dry capacity limited short =>
      cases before.limited.symm.trans limited
      rw [allowedWithin_kept allowed]
      exact paid.refill
    | unlimited free bit claimed probed => cases before.limited.symm.trans free
    | charged capacity limited bit claimed covered probed =>
      cases before.limited.symm.trans limited
      have refilled : (clocked.gate.refillTokens now limit).rpmTokens =
        clocked.gate.projectedTokens now limit := ProviderState.refillTokens_tokens ..
      rw [allowedWithin_cons allowed]
      by_cases counted : opens ≤ now ∧ now ≤ closes
      · rw [if_pos counted]
        right
        have funded : Funded limit opens (clocked.allowedWithin opens closes)
            (clocked.gate.refillTokens now limit) := by
          rcases paid with none | funded
          · rw [none]
            exact .first before.filled before.limited counted.1
          · exact funded.refill
        exact funded.charge rfl (by rw [refilled])
      · rw [if_neg counted, Nat.add_zero]
        refine paid.refill.weaken rfl ?_
        rw [refilled]
        exact sub_le_self _ zero_le_one
  · intro exceeds
    rw [clock] at exceeds
    by_cases admitted : admission.decision = .allow
    · rw [if_pos admitted] at allowed
      rw [allowedWithin_cons allowed, if_neg (by omega), Nat.add_zero]
    · rw [if_neg admitted] at allowed
      exact allowedWithin_kept allowed

/-- One call that moves only the breaker. -/
theorem Bounded.settle {clocked next : ClockedGate} {now : Nat}
    (before : Bounded limit opens closes clocked) (forward : clocked.clock ≤ now)
    (clock : next.clock = now) (bucket : next.gate.bucket = clocked.gate.bucket)
    (allowed : next.allowed = clocked.allowed) : Bounded limit opens closes next := by
  have tokens : next.gate.rpmTokens = clocked.gate.rpmTokens :=
    congrArg ProviderState.Bucket.tokens bucket
  have anchor : next.gate.rpmLastRefill = clocked.gate.rpmLastRefill :=
    congrArg ProviderState.Bucket.anchor bucket
  have capacity : next.gate.rpmCapacity = clocked.gate.rpmCapacity :=
    congrArg ProviderState.Bucket.capacity bucket
  apply before.mk_of_paid
  · exact ⟨tokens ▸ before.filled.nonneg, fun full found => tokens ▸
      before.filled.atMost full (capacity ▸ found)⟩
  · exact capacity.trans before.limited
  · rw [anchor, clock]
    exact le_trans before.anchored forward
  · intro within
    rw [allowedWithin_kept allowed]
    exact (before.paid (le_trans forward (clock ▸ within))).weaken anchor (le_of_eq tokens)
  · intro _
    exact allowedWithin_kept allowed

theorem Bounded.step {clocked next : ClockedGate} {now : Nat} {call : GateCall}
    (before : Bounded limit opens closes clocked)
    (step : ClockedGate.machine.step clocked (now, call) = some next) :
    Bounded limit opens closes next := by
  obtain ⟨forward, gate, clock, allowed⟩ := ClockedGate.step_cases step
  cases dispatches : call.kind with
  | some kind =>
    have effect := clocked.gate.tryDispatchInner_effect now kind
    rw [call.apply_dispatch dispatches] at gate
    rw [← gate] at effect
    apply before.dispatch forward clock effect
    simpa [GateCall.allows, dispatches] using allowed
  | none =>
    apply before.settle forward clock
    · rw [gate]
      exact call.apply_bucket dispatches clocked.gate now
    · simpa [GateCall.allows, dispatches] using allowed

theorem Bounded.initial {policy : ProviderRuntimePolicy} (limited : policy.rpmLimit = some limit)
    (start : Nat) : Bounded limit opens closes (.initial policy start) := by
  constructor
  · exact ProviderState.new_filled policy start
  · simp [ClockedGate.initial, ProviderState.new, limited]
  · exact le_refl _
  · intro _
    exact .inl rfl
  · simp only [ClockedGate.initial, ClockedGate.allowedWithin, List.countP_nil, Nat.cast_zero,
      refillOver]
    positivity

/-- In any interval, a limited gate allows at most its limit and what the
interval's milliseconds, rounded up, refill; its level stays within the limit. -/
theorem allowed_within_rate (policy : ProviderRuntimePolicy) (limit start : Nat)
    (limited : policy.rpmLimit = some limit) (calls : List (Nat × GateCall)) (met : ClockedGate)
    (reached : ClockedGate.machine.run (.initial policy start) calls = some met)
    (opens closes : Nat) :
    (met.allowedWithin opens closes : Rat) ≤
        limit + limit * (ceilMs (closes - opens) : Rat) / (rpmWindowMs : Rat) ∧
      0 ≤ met.gate.rpmTokens ∧ met.gate.rpmTokens ≤ limit := by
  have preserves : ClockedGate.machine.Preserves (Bounded limit opens closes) :=
    fun clocked label next before step => before.step step
  have bounded := preserves.run _ (.initial limited start) reached
  refine ⟨?_, bounded.filled.nonneg, bounded.filled.atMost limit bounded.limited⟩
  have same : refillOver limit (ceilMs (closes - opens)) =
      limit * (ceilMs (closes - opens) : Rat) / (rpmWindowMs : Rat) := div_mul_eq_mul_div ..
  rw [← same]
  exact bounded.bounded

/-- A limit of one a minute: a call half a millisecond in, refused no refill,
and another a minute after the start. -/
theorem allowed_within_rate_overhang :
    let policy : ProviderRuntimePolicy :=
      { rpmLimit := some 1, circuitFailures := none, circuitCooldownMs := none }
    ∃ met, ClockedGate.machine.run (.initial policy 0)
        [(500000, .tryDispatch), (60000000000, .tryDispatch)] = some met ∧
      (met.allowedWithin 500000 60000000000 : Rat) ≤ 1 + 1 * (60000 : Rat) / 60000 := by
  intro policy
  refine ⟨_, rfl, ?_⟩
  have bound := (allowed_within_rate policy 1 0 rfl
    [(500000, .tryDispatch), (60000000000, .tryDispatch)] _ rfl 500000 60000000000).1
  simpa [ceilMs, nanosPerMilli, rpmWindowMs] using bound

/-- Counted by its exact length, the same interval allows one call too many. -/
theorem exact_length_exceeded :
    let policy : ProviderRuntimePolicy :=
      { rpmLimit := some 1, circuitFailures := none, circuitCooldownMs := none }
    ∃ met, ClockedGate.machine.run (.initial policy 0)
        [(500000, .tryDispatch), (60000000000, .tryDispatch)] = some met ∧
      1 + 1 * (((60000000000 - 500000 : Nat) : Rat) / (nanosPerMilli : Rat)) / (rpmWindowMs : Rat) <
        (met.allowedWithin 500000 60000000000 : Rat) := by
  refine ⟨_, rfl, ?_⟩
  decide +kernel

end Routectl.Gate
