import Routectl.Gate.Clocked
import Routectl.Seats.Selection

/-! The read-only view of a gate that seat placement trusts, beside the gate
itself. -/
namespace Routectl.Gate
open Library Seats

namespace ProviderState

def capacitySnapshot (state : ProviderState) (now : Nat) : CapacitySnapshot :=
  { rpmAvailable := state.rpmCapacity.map fun capacity => state.projectedTokens now capacity,
    circuit :=
      match state.circuitOpenedAt with
      | none => .closed
      | some openedAt =>
        let cooldownElapsed : Bool := state.activeCooldown ≤ now - openedAt
        if !cooldownElapsed || state.halfOpenInFlight then .open_ else .halfOpenReady }

def tryDispatch (state : ProviderState) (now : Nat) : GateDecision :=
  (state.tryDispatchAdmitting now).2.decision

variable (state : ProviderState) (now : Nat)

/-- One whole token, or no limit. -/
def headroom : Bool :=
  state.rpmCapacity.all fun capacity => 1 ≤ state.projectedTokens now capacity

theorem chargeToken_allows (claimed : Bool) :
    (state.chargeToken now claimed).2.decision = .allow ↔ state.headroom now = true := by
  rcases Option.eq_none_or_eq_some state.rpmCapacity with free | ⟨capacity, limited⟩
  · simp [chargeToken_unlimited state now free, headroom, free]
  · by_cases short : state.projectedTokens now capacity < 1
    · simp [chargeToken_dry state now limited short, headroom, limited, GateAdmission.refused, short]
    · have covered := le_of_not_gt short
      simp [chargeToken_covered state now limited covered, headroom, limited, covered]

theorem snapshot_dispatchable_iff :
    (state.capacitySnapshot now).isDispatchable = true ↔
      (state.capacitySnapshot now).circuit ≠ .open_ ∧ state.headroom now = true := by
  rcases Option.eq_none_or_eq_some state.rpmCapacity with free | ⟨capacity, limited⟩
  · simp [CapacitySnapshot.isDispatchable, capacitySnapshot, headroom, free]
  · simp [CapacitySnapshot.isDispatchable, capacitySnapshot, headroom, limited]

/-- Placement's prediction is the gate's own decision. -/
theorem dispatchable_iff_tryDispatch :
    (state.capacitySnapshot now).isDispatchable = true ↔ state.tryDispatch now = .allow := by
  rw [snapshot_dispatchable_iff]
  simp only [tryDispatch, tryDispatchAdmitting, tryDispatchInner, capacitySnapshot]
  cases opened : state.circuitOpenedAt with
  | none => simp [chargeToken_allows]
  | some openedAt =>
    by_cases cooling : now - openedAt < state.activeCooldown
    · simp [cooling, not_le_of_gt cooling, GateAdmission.refused]
    · cases inFlight : state.halfOpenInFlight with
      | true => simp [GateAdmission.refused]
      | false =>
        have lapsed := le_of_not_gt cooling
        have headroomKept :
            ({ state with halfOpenInFlight := true } : ProviderState).headroom now =
              state.headroom now := rfl
        have claimed := chargeToken_allows { state with halfOpenInFlight := true } now true
        rw [headroomKept] at claimed
        simpa [cooling, lapsed, opened] using claimed.symm

variable {state now}

/-- A refused attempt leaves the breaker alone and takes nothing from the
bucket: what is stored does not fall, and what is projected stays. -/
theorem refused_spends_nothing {kind : AdmissionKind} {after : ProviderState}
    {admission : GateAdmission} (filled : state.Filled)
    (effect : DispatchEffect state now kind after admission)
    (refused : admission.decision ≠ .allow) :
    after.breaker = state.breaker ∧ state.rpmTokens ≤ after.rpmTokens ∧
      (after.capacitySnapshot now).rpmAvailable = (state.capacitySnapshot now).rpmAvailable := by
  cases effect with
  | refused => exact ⟨rfl, le_refl _, rfl⟩
  | dry capacity limited short =>
    refine ⟨refillTokens_breaker .., ?_, ?_⟩
    · rw [refillTokens_tokens]
      exact (projectedTokens_bounds filled limited).1
    · simp [capacitySnapshot, limited]
  | unlimited free bit claimed probed => exact absurd rfl refused
  | charged capacity limited bit claimed covered probed => exact absurd rfl refused

theorem probe_keeps_bit {after : ProviderState} {admission : GateAdmission}
    (effect : DispatchEffect state now .backgroundProbe after admission) :
    after.halfOpenInFlight = state.halfOpenInFlight := by
  cases effect with
  | refused => rfl
  | dry capacity limited short => exact refillTokens_halfOpen ..
  | unlimited free bit claimed probed => exact probed rfl
  | charged capacity limited bit claimed covered probed => exact probed rfl

end ProviderState

/-- In every gate that calls at forward-going instants can bring about, and at
every instant, placement's reading is the gate's decision; a refused
attempt of either kind leaves the breaker and the tokens, and a background
probe never takes the recovery slot. -/
theorem snapshot_agrees_with_gate (policy : ProviderRuntimePolicy) (start : Nat)
    (calls : List (Nat × GateCall)) (met : ClockedGate) (now : Nat)
    (reached : ClockedGate.machine.run (.initial policy start) calls = some met) :
    ((met.gate.capacitySnapshot now).isDispatchable = true ↔
      met.gate.tryDispatch now = .allow) ∧
    (∀ kind, (met.gate.tryDispatchInner now kind).2.decision ≠ .allow →
      let after := (met.gate.tryDispatchInner now kind).1
      after.breaker = met.gate.breaker ∧ met.gate.rpmTokens ≤ after.rpmTokens ∧
        (after.capacitySnapshot now).rpmAvailable =
          (met.gate.capacitySnapshot now).rpmAvailable) ∧
    (met.gate.tryDispatchProbe now).1.halfOpenInFlight = met.gate.halfOpenInFlight := by
  refine ⟨met.gate.dispatchable_iff_tryDispatch now, ?_, ?_⟩
  · intro kind refused
    have filled := (ClockedGate.filled_of_run reached).1
    exact ProviderState.refused_spends_nothing filled
      (met.gate.tryDispatchInner_effect now kind) refused
  · exact ProviderState.probe_keeps_bit (met.gate.tryDispatchInner_effect now .backgroundProbe)

/-- A limit of one, spent by the first call. -/
theorem snapshot_agrees_with_gate_spent :
    let policy : ProviderRuntimePolicy :=
      { rpmLimit := some 1, circuitFailures := some 1, circuitCooldownMs := none }
    ∃ met, ClockedGate.machine.run (.initial policy 0) [(5, .tryDispatch)] = some met ∧
      ((met.gate.capacitySnapshot 7).isDispatchable = true ↔ met.gate.tryDispatch 7 = .allow) ∧
      (met.gate.tryDispatchProbe 7).1.halfOpenInFlight = met.gate.halfOpenInFlight := by
  intro policy
  refine ⟨_, rfl, ?_⟩
  have agrees := snapshot_agrees_with_gate policy 0 [(5, .tryDispatch)] _ 7 rfl
  exact ⟨agrees.1, agrees.2.2⟩

end Routectl.Gate
