import Routectl.Dispatch.Walk
import Routectl.Gate.HalfOpen

/-! What the error arm of either walk can do: whatever it was told, it waits for a
refresh, gates the entry again, hops, or ends, and all but the first settle the gate. -/
namespace Routectl.Dispatch
open Library Routectl.Gate

/-- The walk after settlements of one gate, each of which clears its bit. -/
inductive Settled (key : String) (before : Walk) : Walk → Prop where
  | once (change : ProviderState → ProviderState)
      (clears : ∀ state, (change state).halfOpenInFlight = false) :
      Settled key before (before.settle key change)
  | again {walk : Walk} (settled : Settled key before walk)
      (change : ProviderState → ProviderState)
      (clears : ∀ state, (change state).halfOpenInFlight = false) :
      Settled key before (walk.settle key change)

section Settling
variable {key : String} {before walk : Walk}

theorem Settled.released (settled : Settled key before walk) :
    Settled key before (walk.releaseProbeSlot key) :=
  settled.again ProviderState.releaseProbeSlot fun _ => rfl

theorem settled_release (walk : Walk) (key : String) :
    Settled key walk (walk.releaseProbeSlot key) :=
  .once ProviderState.releaseProbeSlot fun _ => rfl

theorem settled_recordFailure (walk : Walk) (key : String) (now : Nat) (outcome : LastOutcome) :
    Settled key walk (walk.settle key fun state => (state.recordFailure now outcome).1) :=
  .once _ fun state => (Settlement.recordFailure now outcome).apply_halfOpen state

theorem settled_forceOpen (walk : Walk) (key : String) (now cooldown : Nat) :
    Settled key walk (walk.settle key fun state => state.forceOpen now cooldown) :=
  .once _ fun _ => rfl

/-- Settling touches nothing but the gates and the trace. -/
theorem Settled.frame (settled : Settled key before walk) :
    walk.rest = before.rest ∧ walk.lastErr = before.lastErr ∧
      walk.repairBudget = before.repairBudget := by
  induction settled with
  | once change clears => exact ⟨rfl, rfl, rfl⟩
  | again settled change clears ih => exact ih

/-- The settled key's bit is clear, and the other gates are as they were. -/
theorem Settled.bit (settled : Settled key before walk) {other : String} {state : ProviderState}
    (found : walk.gates.lookup other = some state) (claimed : state.halfOpenInFlight = true) :
    other ≠ key ∧ before.gates.lookup other = some state := by
  have onSettled (middle : Walk) (change : ProviderState → ProviderState)
      (clears : ∀ state, (change state).halfOpenInFlight = false)
      (found : (middle.settle key change).gates.lookup other = some state) :
      other ≠ key ∧ middle.gates.lookup other = some state := by
    have modified : (KeyedMap.modify key change middle.gates).lookup other = some state := found
    by_cases same : other = key
    · subst same
      rw [KeyedMap.lookup_modify_self] at modified
      obtain ⟨earlier, _, changed⟩ := Option.map_eq_some_iff.mp modified
      rw [← changed, clears] at claimed
      contradiction
    · rw [KeyedMap.lookup_modify_ne same] at modified
      exact ⟨same, modified⟩
  induction settled with
  | once change clears => exact onSettled before change clears found
  | again settled change clears ih =>
    exact ih (onSettled _ change clears found).2

end Settling

/-- The error of a failed attempt, or its body-free form. -/
abbrev Reports (provider : String) (error reported : Error) : Prop :=
  reported = error ∨ reported = bodyFree error provider

theorem reports_bodyFree (provider : String) (error : Error) (failure : FailureClass) :
    Reports provider error ((replayRejectionBodyFree error failure provider).getD error) := by
  unfold replayRejectionBodyFree
  split
  · exact .inr rfl
  · exact .inl rfl

/-- The walk with a failed attempt on its trace. -/
def Walk.noteFailed (walk : Walk) (entry : Entry) (error : Error) : Walk :=
  walk.note (.failed entry.target.providerName error)

/-- The walk that draws a repair for a failed attempt. -/
def Walk.noteRepaired (walk : Walk) (entry : Entry) (error : Error) : Walk :=
  { walk.noteFailed entry error with repairBudget := walk.repairBudget.spent }.note .repaired

/-- The entry with one more repair behind it. -/
inductive Repaired (entry : Entry) : Entry → Prop where
  | replay (fresh : entry.replayRepairAttempted = false) :
      Repaired entry { entry with replayRepairAttempted := true, skipReplayBackoff := true }
  | field (fresh : entry.fieldRepairAttempted = false) :
      Repaired entry { entry with fieldRepairAttempted := true, skipReplayBackoff := true }

/-- The entry tried again without a repair, which a stream never does. -/
inductive Retried (session : Session) (surface : Surface) (entry : Entry) : Entry → Prop where
  | canary (whole : surface = .complete) (fresh : entry.canaryRepairAttempted = false) :
      Retried session surface entry
        { entry with canaryRepairAttempted := true, skipReplayBackoff := true }
  | ordinary (whole : surface = .complete)
      (allowed : entry.attemptsMade < session.policy.hardRetryCap) :
      Retried session surface entry entry

/-- The ways out of the error arm. -/
inductive ErrorArm (session : Session) (surface : Surface) (walk : Walk) (entry : Entry)
    (error : Error) : Walk → Prop where
  | refreshing (fresh : entry.authRetryAttempted = false) :
      ErrorArm session surface walk entry error
        { walk.noteFailed entry error with
          phase := .inside { entry with authRetryAttempted := true } (.refreshing error) }
  | repairing {settled : Walk} {again : Entry} {reported : Error}
      (draws : walk.repairBudget.canDraw = true)
      (settles : Settled entry.target.stateKey (walk.noteRepaired entry error) settled)
      (reports : Reports entry.target.providerName error reported)
      (repaired : Repaired entry again) :
      ErrorArm session surface walk entry error (settled.regate again reported)
  | retrying {settled : Walk} {again : Entry} {reported : Error}
      (settles : Settled entry.target.stateKey (walk.noteFailed entry error) settled)
      (reports : Reports entry.target.providerName error reported)
      (retried : Retried session surface entry again) :
      ErrorArm session surface walk entry error (settled.regate again reported)
  | hopping {settled : Walk} {reported : Error}
      (settles : Settled entry.target.stateKey (walk.noteFailed entry error) settled)
      (reports : Reports entry.target.providerName error reported) :
      ErrorArm session surface walk entry error (settled.hopWith reported)
  | ending {settled : Walk} {reported : Error}
      (settles : Settled entry.target.stateKey (walk.noteFailed entry error) settled)
      (reports : Reports entry.target.providerName error reported) :
      ErrorArm session surface walk entry error (settled.finish (.failed reported))

section Arms
variable {session : Session} {surface : Surface} {walk : Walk} {entry : Entry} {error : Error}

theorem probeFastFail_arm {reported : Error}
    (reports : Reports entry.target.providerName error reported) :
    ErrorArm session surface walk entry error
      (probeFastFail session (walk.noteFailed entry error) entry reported) := by
  have released := settled_release (walk.noteFailed entry error) entry.target.stateKey
  unfold probeFastFail
  dsimp only
  split
  · exact .hopping released reports
  · exact .ending released reports

/-- The tail settles the gate, unless a debit already has. -/
theorem settleRoute_arm {reported : Error} {charged : Walk} {debits : Bool} (doFallback : Bool)
    (reports : Reports entry.target.providerName error reported)
    (settled : if debits then Settled entry.target.stateKey (walk.noteFailed entry error) charged
      else charged = walk.noteFailed entry error) :
    ErrorArm session surface walk entry error
      (settleRoute session charged entry debits doFallback reported) := by
  have released : Settled entry.target.stateKey (walk.noteFailed entry error)
      (charged.releaseProbeSlot entry.target.stateKey) := by
    cases debits with
    | true => exact Settled.released settled
    | false =>
      have untouched : charged = walk.noteFailed entry error := settled
      subst untouched
      exact settled_release _ _
  unfold settleRoute
  dsimp only
  split
  · exact .ending released reports
  · split
    · cases debits with
      | true => exact .hopping settled reports
      | false => exact .hopping released reports
    · exact .ending released reports

theorem completeSettle_arm (now : Nat) (failure : FailureClass) :
    ErrorArm session .complete walk entry error
      (completeSettle session (walk.noteFailed entry error) entry now failure error) := by
  have reports := reports_bodyFree entry.target.providerName error failure
  unfold completeSettle
  dsimp only
  generalize (replayRejectionBodyFree error failure entry.target.providerName).getD error =
    reported at reports ⊢
  split
  · exact probeFastFail_arm reports
  · generalize charging : (if (!classDebits failure) = true then walk.noteFailed entry error
      else _) = charged
    have settled : if classDebits failure then
        Settled entry.target.stateKey (walk.noteFailed entry error) charged
        else charged = walk.noteFailed entry error := by
      subst charging
      cases classDebits failure with
      | false => simp
      | true =>
        simp only [Bool.not_true, Bool.false_eq_true, if_false, if_true]
        split
        · exact settled_forceOpen _ _ _ _
        · exact settled_recordFailure _ _ _ _
    split
    · rename_i retries
      simp only [Bool.and_eq_true, decide_eq_true_eq] at retries
      have allowed := retries.2.1.1
      cases debits : classDebits failure with
      | true =>
        simp only [debits, if_true] at settled
        exact .retrying settled.released reports (.ordinary rfl allowed)
      | false =>
        simp only [debits, Bool.false_eq_true, if_false] at settled
        subst settled
        exact .retrying (settled_release _ _) reports (.ordinary rfl allowed)
    · exact settleRoute_arm _ reports settled

theorem streamSettle_arm (now : Nat) (failure : FailureClass) :
    ErrorArm session .stream walk entry error
      (streamSettle session (walk.noteFailed entry error) entry now failure error) := by
  have reports := reports_bodyFree entry.target.providerName error failure
  unfold streamSettle
  dsimp only
  generalize (replayRejectionBodyFree error failure entry.target.providerName).getD error =
    reported at reports ⊢
  split
  · exact probeFastFail_arm reports
  · apply settleRoute_arm _ reports
    cases classDebits failure with
    | false => simp
    | true =>
      simp only [Bool.not_true, Bool.false_eq_true, if_false, if_true]
      split
      · exact settled_forceOpen _ _ _ _
      · exact settled_recordFailure _ _ _ _

/-- The error arm leaves in one of the ways above, on both surfaces. -/
theorem errorArm_cases (session : Session) (surface : Surface) (walk : Walk) (entry : Entry)
    (now : Nat) (error : Error) (facts : FailureFacts) :
    ErrorArm session surface walk entry error
      (errorArm session walk entry surface now error facts) := by
  unfold errorArm
  dsimp only
  split
  · exact .ending (settled_release _ _) (.inl rfl)
  · split
    · rename_i stale
      simp only [Bool.and_eq_true, Bool.not_eq_true', decide_eq_true_eq] at stale
      exact .refreshing stale.1
    · split
      · rename_i repairs
        simp only [Bool.and_eq_true, Bool.not_eq_true'] at repairs
        exact .repairing repairs.2 (settled_release _ _)
          (reports_bodyFree entry.target.providerName error _) (.replay repairs.1.1.1)
      · split
        · rename_i repairs
          simp only [Bool.and_eq_true, Bool.not_eq_true'] at repairs
          exact .repairing repairs.2 (settled_release _ _) (.inl rfl) (.field repairs.1.1.1)
        · cases surface with
          | complete =>
            dsimp only
            split
            · rename_i retries
              simp only [Bool.and_eq_true, Bool.not_eq_true'] at retries
              exact .retrying (settled_release _ _) (.inl rfl) (.canary rfl retries.1.1)
            · exact completeSettle_arm now _
          | stream => exact streamSettle_arm now _

end Arms

end Routectl.Dispatch
