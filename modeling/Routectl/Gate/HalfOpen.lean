import Routectl.Gate.ProviderState
import Routectl.Library.Transition

/-! Who owns the half-open slot. Every settlement clears the shared bit, so the
slot stays single only while nobody else settles under an open claim. -/
namespace Routectl.Gate
open Library

/-- The ways an admitted dispatch closes itself out. -/
inductive Settlement where
  | recordSuccess (now : Nat)
  | recordFailure (now : Nat) (outcome : LastOutcome)
  | forceOpen (now cooldown : Nat)
  | releaseProbeSlot
deriving Repr, DecidableEq

def Settlement.apply (state : ProviderState) : Settlement → ProviderState
  | .recordSuccess now => state.recordSuccess now
  | .recordFailure now outcome => (state.recordFailure now outcome).1
  | .forceOpen now cooldown => state.forceOpen now cooldown
  | .releaseProbeSlot => state.releaseProbeSlot

/-- Whoever settles, the bit is cleared. -/
theorem Settlement.apply_halfOpen (settlement : Settlement) (state : ProviderState) :
    (settlement.apply state).halfOpenInFlight = false := by
  cases settlement with
  | recordSuccess now => rfl
  | recordFailure now outcome =>
    simp only [apply, ProviderState.recordFailure]
    split
    · rfl
    · split <;> rfl
  | forceOpen now cooldown => rfl
  | releaseProbeSlot => rfl

/-- One gate and the admitted dispatches that have not settled. -/
structure Lane where
  gate : ProviderState
  unsettled : List GateAdmission

inductive LaneAction where
  | tryDispatch (now : Nat) (kind : AdmissionKind)
  | settle (position : Nat) (settlement : Settlement)
deriving Repr, DecidableEq

namespace Lane

def initial (policy : ProviderRuntimePolicy) (now : Nat) : Lane :=
  { gate := .new policy now, unsettled := [] }

def step (lane : Lane) : LaneAction → Option Lane
  | .tryDispatch now kind =>
    let (gate, admission) := lane.gate.tryDispatchInner now kind
    if admission.decision = .allow then some { gate, unsettled := admission :: lane.unsettled }
    else some { lane with gate }
  | .settle position settlement =>
    match lane.unsettled[position]? with
    | none => none
    | some _ =>
      some { gate := settlement.apply lane.gate, unsettled := lane.unsettled.eraseIdx position }

def machine : Machine Lane LaneAction := ⟨step⟩

/-- Unsettled dispatches that claimed the half-open slot. -/
def claims (lane : Lane) : Nat := lane.unsettled.countP GateAdmission.claimedHalfOpen

/-- A dispatch that claimed nothing settles only while no claim is open. -/
def SettlesOwn (lane : Lane) : LaneAction → Prop
  | .tryDispatch _ _ => True
  | .settle position _ =>
    ∀ admission ∈ lane.unsettled[position]?, admission.claimedHalfOpen = true ∨ lane.claims = 0

instance (lane : Lane) : (action : LaneAction) → Decidable (SettlesOwn lane action)
  | .tryDispatch _ _ => .isTrue trivial
  | .settle position _ =>
    match found : lane.unsettled[position]? with
    | none => .isTrue (by simp [SettlesOwn, found])
    | some admission =>
      decidable_of_iff (admission.claimedHalfOpen = true ∨ lane.claims = 0) (by
        simp [SettlesOwn, found])

/-- The bit is set exactly while one claimed dispatch is unsettled. -/
structure SlotOwned (lane : Lane) : Prop where
  single : lane.claims ≤ 1
  owned : lane.gate.halfOpenInFlight = true ↔ lane.claims = 1

theorem slotOwned_initial (policy : ProviderRuntimePolicy) (now : Nat) :
    SlotOwned (initial policy now) := by
  constructor
  · simp [claims, initial]
  · simp [claims, initial, ProviderState.new]

section Steps
variable {lane next : Lane}

private theorem claims_cons (gate : ProviderState) (admission : GateAdmission) :
    claims ⟨gate, admission :: lane.unsettled⟩ =
      lane.claims + if admission.claimedHalfOpen then 1 else 0 := by
  simp only [claims, List.countP_cons]

theorem countP_eraseIdx {unsettled : List GateAdmission} {position : Nat} {admission : GateAdmission}
    (present : unsettled[position]? = some admission) :
    unsettled.countP GateAdmission.claimedHalfOpen =
      (unsettled.eraseIdx position).countP GateAdmission.claimedHalfOpen +
        if admission.claimedHalfOpen then 1 else 0 := by
  induction unsettled generalizing position with
  | nil => simp at present
  | cons head rest ih =>
    cases position with
    | zero =>
      obtain rfl := Option.some.inj present
      simp [List.countP_cons]
    | succ previous =>
      have onward := ih (by simpa using present)
      simp only [List.eraseIdx_cons_succ, List.countP_cons]
      omega

theorem SlotOwned.tryDispatch (owned : SlotOwned lane) (now : Nat) (kind : AdmissionKind)
    (step : lane.step (.tryDispatch now kind) = some next) : SlotOwned next := by
  have bound := owned.single
  have held := owned.owned
  have cases := lane.gate.tryDispatchInner_cases now kind
  simp only [Lane.step] at step
  rcases cases with ⟨admission, clear, bit⟩ | ⟨unclaimed, bit⟩
  · rw [admission] at step
    simp only [if_true, Option.some.injEq] at step
    subst step
    have free : lane.claims = 0 := by
      have missing : lane.claims ≠ 1 := fun one => by simp [held.mpr one] at clear
      omega
    constructor
    · rw [claims_cons, free]
      simp
    · rw [claims_cons, free]
      simp [bit]
  · split at step
    · obtain rfl := Option.some.inj step
      constructor
      · rw [claims_cons, unclaimed]
        simpa using bound
      · rw [claims_cons, unclaimed]
        simpa [bit] using held
    · obtain rfl := Option.some.inj step
      constructor
      · exact bound
      · rw [bit]
        exact held

theorem slotOwned_settle_iff (owned : SlotOwned lane) {position : Nat} {settlement : Settlement}
    (step : lane.step (.settle position settlement) = some next) :
    SlotOwned next ↔ SettlesOwn lane (.settle position settlement) := by
  simp only [Lane.step] at step
  split at step
  · cases step
  · rename_i admission present
    obtain rfl := Option.some.inj step
    have counted : lane.claims = (lane.unsettled.eraseIdx position).countP
        GateAdmission.claimedHalfOpen + if admission.claimedHalfOpen then 1 else 0 :=
      countP_eraseIdx present
    have bound := owned.single
    constructor
    · intro after other found
      obtain rfl := Option.some.inj (present.symm.trans found)
      cases claimed : admission.claimedHalfOpen with
      | true => exact .inl rfl
      | false =>
        right
        have remaining : claims ⟨settlement.apply lane.gate, lane.unsettled.eraseIdx position⟩ ≠ 1 :=
          fun one => by simpa [settlement.apply_halfOpen] using after.owned.mpr one
        have kept : lane.claims =
            (lane.unsettled.eraseIdx position).countP GateAdmission.claimedHalfOpen := by
          simpa [claimed] using counted
        simp only [claims] at remaining
        omega
    · intro clean
      have none : (lane.unsettled.eraseIdx position).countP GateAdmission.claimedHalfOpen = 0 := by
        rcases clean admission present with claimed | free
        · simp only [claimed, if_true] at counted
          omega
        · omega
      constructor
      · simp [claims, none]
      · simp [claims, none, settlement.apply_halfOpen]

end Steps

/-- A run keeps the slot owned in every state it meets exactly when nobody in it
settles under another dispatch's open claim. -/
theorem slotOwned_iff_settlesOwn (policy : ProviderRuntimePolicy) (start : Nat)
    (actions : List LaneAction) :
    (∀ met, machine.Visits (initial policy start) actions met → SlotOwned met) ↔
      machine.AllSteps SettlesOwn (initial policy start) actions := by
  have anything : machine.Preserves fun _ => True := fun _ _ _ _ _ => trivial
  refine machine.always_iff_allSteps anything ?_ trivial (slotOwned_initial policy start)
  intro lane action next _ owned step
  cases action with
  | tryDispatch now kind => exact iff_of_true (owned.tryDispatch now kind step) trivial
  | settle position settlement => exact slotOwned_settle_iff owned step

/-- While every dispatch that claimed nothing settles only with no claim open, at
most one claimed dispatch is unsettled at every instant of the run. -/
theorem single_half_open_probe (policy : ProviderRuntimePolicy) (start : Nat)
    (actions : List LaneAction)
    (clean : machine.AllSteps SettlesOwn (initial policy start) actions) :
    ∀ met, machine.Visits (initial policy start) actions met → met.claims ≤ 1 :=
  fun met visits => ((slotOwned_iff_settlesOwn policy start actions).mpr clean met visits).single

/-- The breaker trips, one recovery probe is claimed after the cooldown, fails,
and a second one closes the circuit. -/
def recovery : List LaneAction :=
  [.tryDispatch 0 .clientDispatch, .settle 0 (.recordFailure 1 .http5xx),
   .tryDispatch 2000000 .clientDispatch, .tryDispatch 2000001 .clientDispatch,
   .settle 0 (.recordFailure 2000002 .timeout), .tryDispatch 4000000 .clientDispatch,
   .settle 0 (.recordSuccess 4000001)]

theorem single_half_open_probe_recovery :
    machine.AllSteps SettlesOwn (initial ⟨none, some 1, some 1⟩ 0) recovery ∧
      ∀ met, machine.Visits (initial ⟨none, some 1, some 1⟩ 0) recovery met → met.claims ≤ 1 :=
  ⟨by decide, single_half_open_probe _ _ _ (by decide)⟩

/-- Two dispatches enter a closed gate; the first fails and trips it, a third
claims the recovery probe, the second settles late, and a fourth claims again. -/
def lateSettlement : List LaneAction :=
  [.tryDispatch 0 .clientDispatch, .tryDispatch 0 .clientDispatch,
   .settle 1 (.recordFailure 1 .http5xx), .tryDispatch 2000000 .clientDispatch,
   .settle 1 .releaseProbeSlot, .tryDispatch 2000001 .clientDispatch]

/-- Two claimed dispatches are unsettled at once. -/
theorem half_open_claimed_twice :
    ∃ lane, machine.run (initial ⟨none, some 1, some 1⟩ 0) lateSettlement = some lane ∧
      lane.claims = 2 := by
  obtain ⟨lane, reached⟩ := Option.isSome_iff_exists.mp
    (by decide : (machine.run (initial ⟨none, some 1, some 1⟩ 0) lateSettlement).isSome = true)
  have counted : (machine.run (initial ⟨none, some 1, some 1⟩ 0) lateSettlement).map claims =
      some 2 := by decide
  rw [reached] at counted
  exact ⟨lane, reached, Option.some.inj counted⟩

end Lane
end Routectl.Gate
