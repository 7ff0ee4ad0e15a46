import Routectl.Dispatch.Moves

/-! Every half-open slot the walk claims is settled before it moves on, and the attempts on
one entry and the repairs of one request are bounded. -/
namespace Routectl.Dispatch
open Library Routectl.Gate

/-- The key whose slot the walk has claimed and not settled, read off a newest-first trace. -/
def openClaim : List WalkEvent → Option String
  | [] => none
  | .consulted key true :: _ => some key
  | .settled key :: older => if openClaim older = some key then none else openClaim older
  | _ :: older => openClaim older

/-- The events before which a claim has to be settled. -/
def WalkEvent.movesOn : WalkEvent → Bool
  | .consulted _ _ | .hopped | .ended | .cancelled => true
  | _ => false

/-- Nothing is still claimed whenever the walk moves on. -/
def Balanced : List WalkEvent → Prop
  | [] => True
  | event :: older => (event.movesOn = true → openClaim older = none) ∧ Balanced older

/-- The upstream attempts since the newest chain entry was entered. -/
def attemptsOnEntry : List WalkEvent → Nat
  | [] => 0
  | .entered :: _ => 0
  | .attempted :: older => attemptsOnEntry older + 1
  | _ :: older => attemptsOnEntry older

def repairsMade (trace : List WalkEvent) : Nat := trace.count .repaired

/-- Attempts without the special retries: a stream never retries on policy. -/
def ordinaryAttempts (surface : Surface) (policy : RetryPolicy) : Nat :=
  match surface with
  | .complete => max 1 policy.hardRetryCap
  | .stream => 1

/-- The special retries an entry can have: the auth retry, the two repairs, and the canary
retry of the complete walk. -/
def specialRetries : Surface → Nat
  | .complete => 4
  | .stream => 3

def Entry.specialsTaken (entry : Entry) : Nat :=
  entry.authRetryAttempted.toNat + entry.replayRepairAttempted.toNat +
    entry.fieldRepairAttempted.toNat + entry.canaryRepairAttempted.toNat

/-- The future is between a gate admission and its settlement. -/
def Phase.inFlight : Phase → Bool
  | .inside _ .gating => false
  | .inside _ _ => true
  | _ => false

section Settling
variable {key : String} {before walk : Walk}

theorem openClaim_settled (trace : List WalkEvent)
    (own : openClaim trace = none ∨ openClaim trace = some key) :
    openClaim (.settled key :: trace) = none := by
  rcases own with free | claimed
  · simp [openClaim, free]
  · simp [openClaim, claimed]

theorem Settled.openClaim_eq (settled : Settled key before walk)
    (own : openClaim before.trace = none ∨ openClaim before.trace = some key) :
    openClaim walk.trace = none := by
  induction settled with
  | once change clears => exact openClaim_settled before.trace own
  | again settled change clears ih => exact openClaim_settled _ (.inl ih)

theorem Settled.balanced (settled : Settled key before walk) (balanced : Balanced before.trace) :
    Balanced walk.trace := by
  induction settled with
  | once change clears => exact ⟨nofun, balanced⟩
  | again settled change clears ih => exact ⟨nofun, ih⟩

theorem Settled.attempts (settled : Settled key before walk) :
    attemptsOnEntry walk.trace = attemptsOnEntry before.trace := by
  induction settled with
  | once change clears => rfl
  | again settled change clears ih => exact ih

theorem Settled.repairs (settled : Settled key before walk) :
    repairsMade walk.trace = repairsMade before.trace := by
  induction settled with
  | once change clears => exact List.count_cons_of_ne (by simp)
  | again settled change clears ih => exact (List.count_cons_of_ne (by simp)).trans ih

end Settling
/-- The claim an entry keeps while its future is suspended. -/
structure Holding (walk : Walk) (entry : Entry) (point : Point) : Prop where
  inside : walk.phase = .inside entry point
  suspended : point ≠ .gating
  claimed : openClaim walk.trace = some entry.target.stateKey
  guarded : entry.probeGuard = true
  probing : entry.wasHalfOpenProbe = true

structure SlotFree (walk : Walk) : Prop where
  balanced : Balanced walk.trace
  free : openClaim walk.trace = none

structure SlotSafe (walk : Walk) : Prop where
  balanced : Balanced walk.trace
  held : openClaim walk.trace = none ∨ ∃ entry point, Holding walk entry point

section Claims
variable {surface : Surface} {session : Session} {walk : Walk} {label : Label} {entry : Entry}

theorem SlotFree.safe (free : SlotFree walk) : SlotSafe walk := ⟨free.balanced, .inl free.free⟩

theorem SlotFree.sameTrace {next : Walk} (free : SlotFree walk) (same : next.trace = walk.trace) :
    SlotFree next := ⟨same ▸ free.balanced, same ▸ free.free⟩

theorem SlotFree.note {next : Walk} {event : WalkEvent} (free : SlotFree walk)
    (noted : next.trace = event :: walk.trace)
    (passes : openClaim (event :: walk.trace) = openClaim walk.trace) : SlotFree next :=
  ⟨noted ▸ ⟨fun _ => free.free, free.balanced⟩, noted ▸ passes.trans free.free⟩

theorem SlotFree.passOn (free : SlotFree walk) : SlotFree (walk.passOn session) := by
  unfold Walk.passOn
  split
  · exact free.note rfl rfl
  · exact free.note rfl rfl

/-- Nothing is claimed where the future is not in flight. -/
theorem SlotSafe.grounded (safe : SlotSafe walk) (grounded : walk.phase.inFlight = false) :
    SlotFree walk := by
  rcases safe.held with free | ⟨entry, point, holding⟩
  · exact ⟨safe.balanced, free⟩
  · rw [holding.inside] at grounded
    cases point with
    | gating => exact absurd rfl holding.suspended
    | sleeping => contradiction
    | calling => contradiction
    | refreshing error => contradiction

theorem SlotSafe.own {point : Point} (safe : SlotSafe walk)
    (inside : walk.phase = .inside entry point) :
    openClaim walk.trace = none ∨ Holding walk entry point := by
  rcases safe.held with free | ⟨other, elsewhere, holding⟩
  · exact .inl free
  · have same := Phase.inside.inj (holding.inside.symm.trans inside)
    exact .inr (same.1 ▸ same.2 ▸ holding)

theorem SlotSafe.ownKey {point : Point} (safe : SlotSafe walk)
    (inside : walk.phase = .inside entry point) :
    openClaim walk.trace = none ∨ openClaim walk.trace = some entry.target.stateKey :=
  (safe.own inside).imp_right Holding.claimed

theorem Settled.slotFree {before : Walk} {key : String} (settled : Settled key before walk)
    (balanced : Balanced before.trace)
    (own : openClaim before.trace = none ∨ openClaim before.trace = some key) : SlotFree walk :=
  ⟨settled.balanced balanced, settled.openClaim_eq own⟩

theorem admitted_safe {gates : KeyedMap String ProviderState} {claimed halfOpen : Bool}
    (free : SlotFree walk) (guarded : claimed = true → halfOpen = true) :
    SlotSafe (admitted surface (walk.noteConsulted entry gates claimed) entry halfOpen) := by
  have balanced : Balanced (walk.noteConsulted entry gates claimed).trace :=
    ⟨fun _ => free.free, free.balanced⟩
  have called (started : Entry) (same : started.target = entry.target)
      (probing : started.probeGuard = halfOpen ∧ started.wasHalfOpenProbe = halfOpen) :
      SlotSafe ((walk.noteConsulted entry gates claimed).call started) := by
    refine ⟨⟨nofun, balanced⟩, ?_⟩
    cases claimed with
    | false => exact .inl free.free
    | true =>
      rw [guarded rfl] at probing
      have held : openClaim ((walk.noteConsulted entry gates true).call started).trace =
          some started.target.stateKey := by
        rw [same]
        rfl
      exact .inr ⟨started, .calling, rfl, nofun, held, probing.1, probing.2⟩
  cases surface with
  | stream => exact called _ rfl ⟨rfl, rfl⟩
  | complete =>
    show SlotSafe (if _ then _ else _)
    split
    · refine ⟨balanced, ?_⟩
      cases claimed with
      | false => exact .inl free.free
      | true => exact .inr ⟨_, .sleeping, rfl, nofun, rfl, guarded rfl, guarded rfl⟩
    · exact called _ rfl ⟨rfl, rfl⟩

theorem errorArm_safe {error : Error} {next : Walk} (safe : SlotSafe walk)
    (calling : walk.phase = .inside entry .calling)
    (arm : ErrorArm session surface walk entry.counted error next) : SlotSafe next := by
  have own := safe.ownKey calling
  have failed : Balanced (walk.noteFailed entry.counted error).trace := ⟨nofun, safe.balanced⟩
  cases arm with
  | refreshing fresh =>
    refine ⟨failed, ?_⟩
    rcases safe.own calling with free | holding
    · exact .inl free
    · exact .inr ⟨_, _, rfl, nofun, holding.claimed, holding.guarded, holding.probing⟩
  | repairing draws settles reports repaired =>
    have free := settles.slotFree ⟨nofun, failed⟩ own
    exact SlotFree.safe (free.sameTrace rfl)
  | retrying settles reports retried =>
    have free := settles.slotFree failed own
    exact SlotFree.safe (free.sameTrace rfl)
  | hopping settles reports =>
    have free := settles.slotFree failed own
    exact SlotFree.safe (free.note rfl rfl)
  | ending settles reports =>
    have free := settles.slotFree failed own
    exact SlotFree.safe (free.note rfl rfl)

theorem cancelled_safe {point : Point} (safe : SlotSafe walk)
    (inside : walk.phase = .inside entry point) : SlotSafe (cancelled walk entry) := by
  unfold cancelled
  dsimp only
  cases guard : entry.probeGuard with
  | true =>
    have free := (settled_release walk entry.target.stateKey).slotFree safe.balanced
      (safe.ownKey inside)
    exact SlotFree.safe (free.note rfl rfl)
  | false =>
    rcases safe.own inside with free | holding
    · exact SlotFree.safe ((SlotFree.mk safe.balanced free).note rfl rfl)
    · exact absurd (guard.symm.trans holding.guarded) Bool.false_ne_true

theorem slotSafe_move {next : Walk} (safe : SlotSafe walk)
    (move : Moves surface session walk label next) : SlotSafe next := by
  cases move with
  | exhausted between last =>
    have free := safe.grounded (between ▸ rfl)
    exact SlotFree.safe (free.note rfl rfl)
  | @skipped target later error between more =>
    have free := safe.grounded (between ▸ rfl)
    have entered : SlotFree (walk.noteEntered later) := free.note rfl rfl
    have skipped : SlotFree ((walk.noteEntered later).noteSkipped error) := entered.note rfl rfl
    exact skipped.passOn.safe
  | @rejected target later error between more =>
    have free := safe.grounded (between ▸ rfl)
    have entered : SlotFree (walk.noteEntered later) := free.note rfl rfl
    exact SlotFree.safe (entered.note rfl rfl)
  | prepared preparation between more =>
    have free := safe.grounded (between ▸ rfl)
    exact SlotFree.safe (free.note rfl rfl)
  | @refused entry gates body gating bits =>
    have free := safe.grounded (gating ▸ rfl)
    have consulted : SlotFree (walk.noteConsulted entry gates false) := free.note rfl rfl
    exact SlotFree.safe (SlotFree.passOn (consulted.sameTrace rfl))
  | admitted gating bits guarded => exact admitted_safe (safe.grounded (gating ▸ rfl)) guarded
  | woken sleeping =>
    refine ⟨⟨nofun, safe.balanced⟩, ?_⟩
    rcases safe.own sleeping with free | holding
    · exact .inl free
    · exact .inr ⟨_, .calling, rfl, nofun, holding.claimed, holding.guarded, holding.probing⟩
  | served calling settles =>
    have free := settles.slotFree safe.balanced (safe.ownKey calling)
    exact SlotFree.safe (free.note rfl rfl)
  | servedUnprobed calling unprobed =>
    rcases safe.own calling with free | holding
    · exact SlotFree.safe ((SlotFree.mk safe.balanced free).note rfl rfl)
    · exact absurd (unprobed.symm.trans holding.probing) Bool.false_ne_true
  | errored calling arm => exact errorArm_safe safe calling arm
  | refreshed refreshing =>
    have free := (settled_release walk _).slotFree safe.balanced (safe.ownKey refreshing)
    exact SlotFree.safe (free.sameTrace rfl)
  | refreshDied refusal refreshing =>
    have free := (settled_release walk _).slotFree safe.balanced (safe.ownKey refreshing)
    exact SlotFree.safe (free.note rfl rfl)
  | dropped inside suspended => exact cancelled_safe safe inside
  | others theirs =>
    refine ⟨safe.balanced, ?_⟩
    rcases safe.held with free | ⟨entry, point, holding⟩
    · exact .inl free
    · exact .inr ⟨entry, point, holding.inside, holding.suspended, holding.claimed,
        holding.guarded, holding.probing⟩

end Claims

/-- Room for one more attempt, counting the special retries taken so far. -/
structure Entry.Fits (surface : Surface) (policy : RetryPolicy) (entry : Entry) : Prop where
  room : entry.attemptsMade + 1 ≤ ordinaryAttempts surface policy + entry.specialsTaken
  noCanary : surface = .stream → entry.canaryRepairAttempted = false

def attemptBound (surface : Surface) (policy : RetryPolicy) : Nat :=
  ordinaryAttempts surface policy + specialRetries surface

def AttemptsFit (surface : Surface) (policy : RetryPolicy) (walk : Walk) : Prop :=
  match walk.phase with
  | .inside entry .calling =>
    attemptsOnEntry walk.trace = entry.attemptsMade + 1 ∧ entry.Fits surface policy
  | .inside entry _ => attemptsOnEntry walk.trace = entry.attemptsMade ∧ entry.Fits surface policy
  | _ => attemptsOnEntry walk.trace ≤ attemptBound surface policy

section Attempts
variable {surface : Surface} {session : Session} {walk : Walk} {label : Label} {entry : Entry}

theorem Entry.Fits.bound {policy : RetryPolicy} (fits : entry.Fits surface policy) :
    entry.attemptsMade + 1 ≤ attemptBound surface policy := by
  have taken : entry.specialsTaken ≤ specialRetries surface := by
    have auth := entry.authRetryAttempted.toNat_le
    have replay := entry.replayRepairAttempted.toNat_le
    have field := entry.fieldRepairAttempted.toNat_le
    unfold specialsTaken
    cases surface with
    | complete =>
      have canary := entry.canaryRepairAttempted.toNat_le
      simp only [specialRetries]
      omega
    | stream =>
      rw [fits.noCanary rfl]
      simp only [specialRetries, Bool.toNat_false]
      omega
  exact le_trans fits.room (Nat.add_le_add_left taken _)

theorem AttemptsFit.bounded {policy : RetryPolicy} (fit : AttemptsFit surface policy walk) :
    attemptsOnEntry walk.trace ≤ attemptBound surface policy := by
  unfold AttemptsFit at fit
  split at fit
  · exact fit.1.trans_le fit.2.bound
  · exact fit.1.trans_le (le_trans (Nat.le_succ _) fit.2.bound)
  · exact fit

theorem Repaired.fits {again : Entry} (repaired : Repaired entry.counted again)
    (fits : entry.Fits surface session.policy) : again.Fits surface session.policy := by
  have room := fits.room
  cases repaired with
  | replay fresh =>
    have before : entry.replayRepairAttempted = false := fresh
    refine ⟨?_, fits.noCanary⟩
    simp only [Entry.counted, Entry.specialsTaken, before, Bool.toNat_false, Bool.toNat_true]
      at room ⊢
    omega
  | field fresh =>
    have before : entry.fieldRepairAttempted = false := fresh
    refine ⟨?_, fits.noCanary⟩
    simp only [Entry.counted, Entry.specialsTaken, before, Bool.toNat_false, Bool.toNat_true]
      at room ⊢
    omega

theorem Retried.fits {again : Entry} (retried : Retried session surface entry.counted again)
    (fits : entry.Fits surface session.policy) : again.Fits surface session.policy := by
  have room := fits.room
  cases retried with
  | canary whole fresh =>
    have before : entry.canaryRepairAttempted = false := fresh
    subst whole
    refine ⟨?_, nofun⟩
    simp only [Entry.counted, Entry.specialsTaken, before, Bool.toNat_false, Bool.toNat_true]
      at room ⊢
    omega
  | ordinary whole allowed =>
    subst whole
    have below : entry.attemptsMade + 1 < session.policy.hardRetryCap := allowed
    refine ⟨?_, nofun⟩
    simp only [Entry.counted, ordinaryAttempts]
    omega

theorem Repaired.attemptsMade {again : Entry} (repaired : Repaired entry again) :
    again.attemptsMade = entry.attemptsMade := by
  cases repaired <;> rfl

theorem Retried.attemptsMade {again : Entry} (retried : Retried session surface entry again) :
    again.attemptsMade = entry.attemptsMade := by
  cases retried <;> rfl

/-- An entry is gated again after the attempt that was counted. -/
theorem regate_fits {again : Entry} {reported : Error}
    (made : attemptsOnEntry walk.trace = again.attemptsMade)
    (fits : again.Fits surface session.policy) :
    AttemptsFit surface session.policy (walk.regate again reported) :=
  ⟨made, fits.room, fits.noCanary⟩

theorem errorArm_fits {error : Error} {next : Walk}
    (made : attemptsOnEntry walk.trace = entry.attemptsMade + 1)
    (fits : entry.Fits surface session.policy)
    (arm : ErrorArm session surface walk entry.counted error next) :
    AttemptsFit surface session.policy next := by
  cases arm with
  | refreshing fresh =>
    have before : entry.authRetryAttempted = false := fresh
    have room := fits.room
    refine ⟨made, ?_, fits.noCanary⟩
    simp only [Entry.counted, Entry.specialsTaken, before, Bool.toNat_false, Bool.toNat_true]
      at room ⊢
    omega
  | repairing draws settles reports repaired =>
    have counted := settles.attempts.trans made
    exact regate_fits (counted.trans repaired.attemptsMade.symm) (repaired.fits fits)
  | retrying settles reports retried =>
    have counted := settles.attempts.trans made
    exact regate_fits (counted.trans retried.attemptsMade.symm) (retried.fits fits)
  | hopping settles reports => exact (settles.attempts.trans made).trans_le fits.bound
  | ending settles reports => exact (settles.attempts.trans made).trans_le fits.bound

theorem passOn_fits {policy : RetryPolicy}
    (bounded : attemptsOnEntry walk.trace ≤ attemptBound surface policy) :
    AttemptsFit surface policy (walk.passOn session) := by
  unfold Walk.passOn
  split
  · exact bounded
  · exact bounded

theorem admitted_fits {gates : KeyedMap String ProviderState} {claimed halfOpen : Bool}
    (made : attemptsOnEntry walk.trace = entry.attemptsMade)
    (fits : entry.Fits surface session.policy) :
    AttemptsFit surface session.policy
      (admitted surface (walk.noteConsulted entry gates claimed) entry halfOpen) := by
  cases surface with
  | stream => exact ⟨congrArg (· + 1) made, fits.room, fits.noCanary⟩
  | complete =>
    show AttemptsFit _ _ (if _ then _ else _)
    split
    · exact ⟨made, fits.room, fits.noCanary⟩
    · exact ⟨congrArg (· + 1) made, fits.room, fits.noCanary⟩

theorem AttemptsFit.inside {point : Point} (fit : AttemptsFit surface session.policy walk)
    (inside : walk.phase = .inside entry point) :
    attemptsOnEntry walk.trace = entry.attemptsMade + (if point = .calling then 1 else 0) ∧
      entry.Fits surface session.policy := by
  unfold AttemptsFit at fit
  rw [inside] at fit
  cases point <;> exact fit

theorem cancelled_attempts (walk : Walk) (entry : Entry) :
    attemptsOnEntry (cancelled walk entry).trace = attemptsOnEntry walk.trace := by
  unfold cancelled
  dsimp only
  split
  · exact (settled_release walk entry.target.stateKey).attempts
  · rfl

theorem attemptsFit_move {next : Walk} (fit : AttemptsFit surface session.policy walk)
    (move : Moves surface session walk label next) : AttemptsFit surface session.policy next := by
  have bounded := fit.bounded
  cases move with
  | exhausted between last => exact bounded
  | skipped error between more => exact passOn_fits (Nat.zero_le _)
  | rejected error between more => exact Nat.zero_le _
  | prepared preparation between more =>
    refine ⟨rfl, ?_, fun _ => rfl⟩
    cases surface with
    | complete => exact le_max_left _ _
    | stream => exact le_refl _
  | refused body gating bits => exact passOn_fits bounded
  | admitted gating bits guarded =>
    have entered := fit.inside gating
    exact admitted_fits entered.1 entered.2
  | woken sleeping =>
    have entered := fit.inside sleeping
    exact ⟨congrArg (· + 1) entered.1, entered.2⟩
  | served calling settles => exact settles.attempts.trans_le bounded
  | servedUnprobed calling unprobed => exact bounded
  | errored calling arm =>
    have entered := fit.inside calling
    exact errorArm_fits entered.1 entered.2 arm
  | refreshed refreshing =>
    have entered := fit.inside refreshing
    exact regate_fits ((settled_release walk _).attempts.trans entered.1) entered.2
  | @refreshDied entry error refusal refreshing =>
    exact (settled_release walk entry.target.stateKey).attempts.trans_le bounded
  | dropped inside suspended => exact (cancelled_attempts walk _).trans_le bounded
  | others theirs => exact fit

end Attempts

/-- What is left of the budget is what the repairs have not drawn. -/
def Budgeted (walk : Walk) : Prop :=
  repairsMade walk.trace + walk.repairBudget.remaining = repairsPerRequest

section Repairs
variable {surface : Surface} {session : Session} {walk next : Walk} {label : Label}

theorem Budgeted.note {event : WalkEvent} (budgeted : Budgeted walk)
    (noted : next.trace = event :: walk.trace) (free : event ≠ .repaired)
    (same : next.repairBudget = walk.repairBudget) : Budgeted next := by
  unfold Budgeted repairsMade
  rw [noted, same, List.count_cons_of_ne free]
  exact budgeted

theorem Budgeted.settled {key : String} (budgeted : Budgeted walk)
    (settles : Settled key walk next) : Budgeted next := by
  unfold Budgeted
  rw [settles.repairs, settles.frame.2.2]
  exact budgeted

theorem Budgeted.passOn (budgeted : Budgeted walk) : Budgeted (walk.passOn session) := by
  unfold Walk.passOn
  split
  · exact budgeted.note rfl nofun rfl
  · exact budgeted.note rfl nofun rfl

theorem Budgeted.repaired {entry : Entry} {error : Error} (budgeted : Budgeted walk)
    (draws : walk.repairBudget.canDraw = true) : Budgeted (walk.noteRepaired entry error) := by
  have positive : 0 < walk.repairBudget.remaining := of_decide_eq_true draws
  have failed : Budgeted (walk.noteFailed entry error) := budgeted.note rfl nofun rfl
  have drawn : repairsMade (walk.noteRepaired entry error).trace =
      repairsMade (walk.noteFailed entry error).trace + 1 := List.count_cons_self
  have left : (walk.noteRepaired entry error).repairBudget.remaining =
      walk.repairBudget.remaining - 1 := rfl
  have whole : repairsMade (walk.noteFailed entry error).trace + walk.repairBudget.remaining =
      repairsPerRequest := failed
  unfold Budgeted
  rw [drawn, left]
  omega

theorem budgeted_errorArm {entry : Entry} {error : Error} (budgeted : Budgeted walk)
    (arm : ErrorArm session surface walk entry error next) : Budgeted next := by
  have failed : Budgeted (walk.noteFailed entry error) := budgeted.note rfl nofun rfl
  cases arm with
  | refreshing fresh => exact failed
  | repairing draws settles reports repaired =>
    have drawn : Budgeted (walk.noteRepaired entry error) := budgeted.repaired draws
    have settled := drawn.settled settles
    exact settled
  | retrying settles reports retried =>
    have settled := failed.settled settles
    exact settled
  | hopping settles reports => exact (failed.settled settles).note rfl nofun rfl
  | ending settles reports => exact (failed.settled settles).note rfl nofun rfl

theorem admitted_budgeted {entry : Entry} {halfOpen : Bool} (budgeted : Budgeted walk) :
    Budgeted (admitted surface walk entry halfOpen) := by
  cases surface with
  | stream => exact budgeted.note rfl nofun rfl
  | complete =>
    show Budgeted (if _ then _ else _)
    split
    · exact budgeted
    · exact budgeted.note rfl nofun rfl

theorem cancelled_budgeted (budgeted : Budgeted walk) (entry : Entry) :
    Budgeted (cancelled walk entry) := by
  unfold cancelled
  dsimp only
  split
  · exact (budgeted.settled (settled_release walk _)).note rfl nofun rfl
  · exact budgeted.note rfl nofun rfl

theorem budgeted_move (budgeted : Budgeted walk) (move : Moves surface session walk label next) :
    Budgeted next := by
  have entered (later : List DispatchTarget) : Budgeted (walk.noteEntered later) :=
    budgeted.note rfl nofun rfl
  cases move with
  | exhausted between last => exact budgeted.note rfl nofun rfl
  | @skipped target later error between more =>
    have skipped : Budgeted ((walk.noteEntered later).noteSkipped error) :=
      (entered later).note rfl nofun rfl
    exact skipped.passOn
  | rejected error between more => exact (entered _).note rfl nofun rfl
  | @prepared target later preparation between more => exact entered later
  | @refused entry gates body gating bits =>
    have consulted : Budgeted (walk.noteConsulted entry gates false) :=
      budgeted.note rfl nofun rfl
    exact Budgeted.passOn consulted
  | @admitted entry gates claimed halfOpen gating bits guarded =>
    have consulted : Budgeted (walk.noteConsulted entry gates claimed) :=
      budgeted.note rfl nofun rfl
    exact admitted_budgeted consulted
  | woken sleeping => exact budgeted.note rfl nofun rfl
  | served calling settles => exact (budgeted.settled settles).note rfl nofun rfl
  | servedUnprobed calling unprobed => exact budgeted.note rfl nofun rfl
  | errored calling arm => exact budgeted_errorArm budgeted arm
  | @refreshed entry error refreshing =>
    have released := budgeted.settled (settled_release walk entry.target.stateKey)
    exact released
  | refreshDied refusal refreshing =>
    exact (budgeted.settled (settled_release walk _)).note rfl nofun rfl
  | dropped inside suspended => exact cancelled_budgeted budgeted _
  | others theirs => exact budgeted

end Repairs

/-- Every set half-open bit is the walk's own unsettled claim. -/
def BitsOwned (walk : Walk) : Prop :=
  ∀ key state, walk.gates.lookup key = some state → state.halfOpenInFlight = true →
    openClaim walk.trace = some key

def ClearGates (gates : KeyedMap String ProviderState) : Prop :=
  ∀ key state, gates.lookup key = some state → state.halfOpenInFlight = false

/-- The other tasks claim no slot; they may settle. -/
def Quiet : Label → Prop
  | .others _ change =>
    ∀ state, state.halfOpenInFlight = false → (change state).halfOpenInFlight = false
  | _ => True

section Bits
variable {surface : Surface} {session : Session} {walk next : Walk} {label : Label}
  {entry : Entry}

/-- A walk without a claim owns no bit, so all bits are clear. -/
theorem BitsOwned.clear (owned : BitsOwned walk) (free : openClaim walk.trace = none) :
    ClearGates walk.gates := by
  intro key state found
  by_contra set
  have claimed := owned key state found (Bool.not_eq_false _ ▸ set)
  rw [free] at claimed
  contradiction

theorem ClearGates.owned (clear : ClearGates walk.gates) : BitsOwned walk := by
  intro key state found set
  rw [clear key state found] at set
  contradiction

theorem Settled.clear {key : String} (settled : Settled key walk next) (owned : BitsOwned walk)
    (own : openClaim walk.trace = none ∨ openClaim walk.trace = some key) :
    ClearGates next.gates := by
  intro other state found
  by_contra set
  have kept := settled.bit found (Bool.not_eq_false _ ▸ set)
  have claimed := owned other state kept.2 (Bool.not_eq_false _ ▸ set)
  rcases own with free | held
  · rw [free] at claimed
    contradiction
  · exact kept.1 (Option.some.inj (claimed.symm.trans held))

theorem passOn_gates (walk : Walk) : (walk.passOn session).gates = walk.gates := by
  unfold Walk.passOn
  split <;> rfl

theorem admitted_owned {gates : KeyedMap String ProviderState} {claimed halfOpen : Bool}
    (clear : ClearGates walk.gates)
    (bits : OnlyClaims entry.target.stateKey claimed walk.gates gates) :
    BitsOwned (admitted surface (walk.noteConsulted entry gates claimed) entry halfOpen) := by
  have consulted : BitsOwned (walk.noteConsulted entry gates claimed) := by
    intro key state found set
    rcases bits key state found set with ⟨own, claims⟩ | ⟨earlier, lookup, wasSet⟩
    · rw [own, claims]
      rfl
    · rw [clear key earlier lookup] at wasSet
      contradiction
  cases surface with
  | stream => exact consulted
  | complete =>
    show BitsOwned (if _ then _ else _)
    split
    · exact consulted
    · exact consulted

theorem errorArm_owned {error : Error} (owned : BitsOwned walk)
    (own : openClaim walk.trace = none ∨ openClaim walk.trace = some entry.target.stateKey)
    (arm : ErrorArm session surface walk entry.counted error next) : BitsOwned next := by
  cases arm with
  | refreshing fresh => exact owned
  | repairing draws settles reports repaired =>
    have drawn : BitsOwned (walk.noteRepaired entry.counted error) := owned
    exact ClearGates.owned (settles.clear drawn own)
  | retrying settles reports retried =>
    have failed : BitsOwned (walk.noteFailed entry.counted error) := owned
    exact ClearGates.owned (settles.clear failed own)
  | hopping settles reports =>
    have failed : BitsOwned (walk.noteFailed entry.counted error) := owned
    exact ClearGates.owned (settles.clear failed own)
  | ending settles reports =>
    have failed : BitsOwned (walk.noteFailed entry.counted error) := owned
    exact ClearGates.owned (settles.clear failed own)

theorem cancelled_owned {point : Point} (safe : SlotSafe walk) (owned : BitsOwned walk)
    (inside : walk.phase = .inside entry point) : BitsOwned (cancelled walk entry) := by
  unfold cancelled
  cases guard : entry.probeGuard with
  | true =>
    have released := settled_release walk entry.target.stateKey
    exact ClearGates.owned (released.clear owned (safe.ownKey inside))
  | false => exact owned

theorem others_owned {key : String} {change : ProviderState → ProviderState}
    (owned : BitsOwned walk)
    (quiet : ∀ state, state.halfOpenInFlight = false → (change state).halfOpenInFlight = false) :
    BitsOwned { walk with gates := KeyedMap.modify key change walk.gates } := by
  intro other state found set
  have modified : (KeyedMap.modify key change walk.gates).lookup other = some state := found
  by_cases same : other = key
  · subst same
    rw [KeyedMap.lookup_modify_self] at modified
    obtain ⟨earlier, lookup, changed⟩ := Option.map_eq_some_iff.mp modified
    cases bit : earlier.halfOpenInFlight with
    | true => exact owned other earlier lookup bit
    | false =>
      rw [← changed, quiet earlier bit] at set
      contradiction
  · rw [KeyedMap.lookup_modify_ne same] at modified
    exact owned other state modified set

/-- A step of the walk itself leaves no bit behind that is not its own claim. -/
theorem bitsOwned_move (safe : SlotSafe walk) (owned : BitsOwned walk)
    (quiet : Quiet label) (move : Moves surface session walk label next) : BitsOwned next := by
  cases move with
  | exhausted between last => exact owned
  | @skipped target later error between more =>
    have clear := owned.clear (safe.grounded (between ▸ rfl)).free
    apply ClearGates.owned
    rw [passOn_gates]
    exact clear
  | rejected error between more => exact owned
  | prepared preparation between more => exact owned
  | refused body gating bits =>
    have clear := owned.clear (safe.grounded (gating ▸ rfl)).free
    apply ClearGates.owned
    unfold refused
    rw [passOn_gates]
    intro key state found
    by_contra set
    rcases bits key state found (Bool.not_eq_false _ ▸ set) with claims | ⟨earlier, lookup, wasSet⟩
    · exact Bool.false_ne_true claims.2
    · rw [clear key earlier lookup] at wasSet
      contradiction
  | admitted gating bits guarded =>
    exact admitted_owned (owned.clear (safe.grounded (gating ▸ rfl)).free) bits
  | woken sleeping => exact owned
  | served calling settles =>
    exact ClearGates.owned (settles.clear owned (safe.ownKey calling))
  | servedUnprobed calling unprobed => exact owned
  | errored calling arm => exact errorArm_owned owned (safe.ownKey calling) arm
  | @refreshed entry error refreshing =>
    have released := settled_release walk entry.target.stateKey
    exact ClearGates.owned (released.clear owned (safe.ownKey refreshing))
  | @refreshDied entry error refusal refreshing =>
    have released := settled_release walk entry.target.stateKey
    exact ClearGates.owned (released.clear owned (safe.ownKey refreshing))
  | dropped inside suspended => exact cancelled_owned safe owned inside
  | others theirs =>
    subst theirs
    exact others_owned owned quiet

end Bits

section Runs
variable {surface : Surface} {session : Session} {gates : KeyedMap String ProviderState}
  {chain : List DispatchTarget} {labels : List Label} {met : Walk}

theorem start_safe (gates : KeyedMap String ProviderState) (chain : List DispatchTarget) :
    SlotSafe (.start gates chain) := SlotFree.safe ⟨trivial, rfl⟩

theorem preserves_safe : (machine surface session).Preserves SlotSafe :=
  fun _ _ _ safe taken => slotSafe_move safe (step_moves taken)

theorem preserves_fits :
    (machine surface session).Preserves (AttemptsFit surface session.policy) :=
  fun _ _ _ fit taken => attemptsFit_move fit (step_moves taken)

theorem preserves_budgeted : (machine surface session).Preserves Budgeted :=
  fun _ _ _ budgeted taken => budgeted_move budgeted (step_moves taken)

def QuietRun (surface : Surface) (session : Session) : Walk → List Label → Prop :=
  (machine surface session).AllSteps fun _ label => Quiet label

theorem keeps_owned (walk : Walk) (label : Label) (next : Walk)
    (holds : SlotSafe walk ∧ BitsOwned walk) (quiet : Quiet label)
    (taken : (machine surface session).step walk label = some next) :
    SlotSafe next ∧ BitsOwned next := by
  have move := step_moves taken
  exact ⟨slotSafe_move holds.1 move, bitsOwned_move holds.1 holds.2 quiet move⟩

/-- In every state a walk meets, on either surface and whatever other tasks do to the gates
between its steps (the check of a gate and the claim of its slot are one step here): each slot
it claimed was settled before it moved on, a claim is open only in flight, and attempts and
repairs are bounded. Where no other task claims a slot, none is left claimed. -/
theorem slot_balanced_bounded (surface : Surface) (session : Session)
    (gates : KeyedMap String ProviderState) (chain : List DispatchTarget) (labels : List Label)
    (met : Walk) (visits : (machine surface session).Visits (.start gates chain) labels met) :
    Balanced met.trace ∧ (openClaim met.trace ≠ none → met.phase.inFlight = true) ∧
    attemptsOnEntry met.trace ≤ attemptBound surface session.policy ∧
    repairsMade met.trace ≤ repairsPerRequest ∧
    (ClearGates gates →
      QuietRun surface session (.start gates chain) labels →
      met.phase.inFlight = false → ClearGates met.gates) := by
  have initially := start_safe gates chain
  have safe := preserves_safe.visits _ initially visits
  have entered : AttemptsFit surface session.policy (.start gates chain) := Nat.zero_le _
  have fits := preserves_fits.visits _ entered visits
  have unspent : Budgeted (.start gates chain) := rfl
  have budgeted := preserves_budgeted.visits _ unspent visits
  refine ⟨safe.balanced, ?_, fits.bounded, Nat.le.intro budgeted, ?_⟩
  · intro claimed
    by_contra grounded
    exact claimed (safe.grounded (Bool.not_eq_true _ ▸ grounded)).free
  · intro clear quiet grounded
    have owned : BitsOwned (.start gates chain) := ClearGates.owned clear
    have guarded := Machine.AllSteps.visits _ keeps_owned quiet ⟨initially, owned⟩ visits
    exact guarded.2.clear (guarded.1.grounded grounded).free

/-- A tripped breaker whose cooldown has passed admits the walk as its probe. -/
def cooledGates : KeyedMap String ProviderState :=
  (∅ : KeyedMap String ProviderState).insert "seat"
    { ProviderState.new { rpmLimit := none, circuitFailures := some 1, circuitCooldownMs := some 0 } 0
      with circuitOpenedAt := some 0, activeCooldown := 0 }

def seatOf (name : String) : DispatchTarget :=
  { providerName := name, stateKey := name, model := 0, hasProvider := true,
    useForwardedCredential := false, classOverrides := [] }

def plainSession (maxAttempts : Nat) : Session :=
  { policy :=
      { maxAttempts, retryOn429 := none, retryOn5xx := none, retryOnNetwork := none,
        classes := ∅, maxHonoredRetryAfterMs := none, probeMaxTokens := 0 },
    model := "model", maxTokens := none, forwardedBearer := false, disableFallbacks := false }

def plainPreparation : Preparation :=
  { strip := .proceed, replayPlan := false, fieldPlan := false, fieldCanary := false }

def staleToken : Reply :=
  .failed (.plain "seat" 401 "") { nativeClass := .auth, namesField := false, namesCanary := false }

/-- A probe is refused its token, refreshes, claims the slot again and is dropped asleep. -/
def droppedRun : List Label :=
  [.enter plainPreparation, .gate 1, .reply 2 staleToken, .refreshed none, .gate 3, .cancel]

theorem slot_balanced_bounded_dropped :
    ∃ met, (machine .complete (plainSession 2)).run (.start cooledGates [seatOf "seat"]) droppedRun =
        some met ∧ met.phase = .dropped ∧ Balanced met.trace ∧
      attemptsOnEntry met.trace ≤ attemptBound .complete (plainSession 2).policy ∧
      ClearGates met.gates := by
  obtain ⟨met, reached, dropped⟩ : ∃ met, (machine .complete (plainSession 2)).run
      (.start cooledGates [seatOf "seat"]) droppedRun = some met ∧ met.phase = .dropped :=
    ⟨_, rfl, rfl⟩
  have holds := slot_balanced_bounded .complete (plainSession 2) cooledGates [seatOf "seat"]
    droppedRun met ⟨droppedRun, [], rfl, reached⟩
  have clear : ClearGates cooledGates := by
    intro key state found
    by_cases same : key = "seat"
    · subst same
      exact Option.some.inj found ▸ rfl
    · rw [cooledGates, AList.lookup_insert_ne same] at found
      contradiction
  have quiet : QuietRun .complete (plainSession 2) (.start cooledGates [seatOf "seat"]) droppedRun :=
    ⟨trivial, trivial, trivial, trivial, trivial, trivial, trivial⟩
  exact ⟨met, reached, dropped, holds.1, holds.2.2.1, holds.2.2.2.2 clear quiet (dropped ▸ rfl)⟩

end Runs
end Routectl.Dispatch
