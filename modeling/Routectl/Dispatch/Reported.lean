import Routectl.Dispatch.Balance

/-! Which error an exhausted walk reports: that of its latest failed attempt, unless an
entry passed over after it overwrote the error. -/
namespace Routectl.Dispatch
open Library Routectl.Gate

/-- The newest failed attempt of a newest-first trace. -/
def latestFailure : List WalkEvent → Option (String × Error)
  | [] => none
  | .failed provider error :: _ => some (provider, error)
  | _ :: older => latestFailure older

/-- What the newest entry passed over since the latest failed attempt left: an entry without
a provider, or one the strip interceptor routed away. -/
def latestSkip : List WalkEvent → Option Error
  | [] => none
  | .skipped error :: _ => some error
  | .failed _ _ :: _ => none
  | _ :: older => latestSkip older

/-- After a failed attempt the running error is that attempt's, or the newest skip's. -/
def Carried (trace : List WalkEvent) (lastErr : Option Error) : Prop :=
  ∀ provider error, latestFailure trace = some (provider, error) →
    match latestSkip trace with
    | some skip => lastErr = some skip
    | none => ∃ reported, lastErr = some reported ∧ Reports provider error reported

/-- While a credential is refreshed its 401 is not the running error yet. -/
def ErrorKept (session : Session) (walk : Walk) : Prop :=
  match walk.phase with
  | .inside entry (.refreshing error) =>
    latestFailure walk.trace = some (entry.target.providerName, error) ∧
      latestSkip walk.trace = none
  | .finished (.exhausted error) =>
    error = walk.lastErr.getD (.unknownAlias session.model) ∧ Carried walk.trace walk.lastErr
  | .finished _ | .dropped => True
  | _ => Carried walk.trace walk.lastErr

section Carrying
variable {surface : Surface} {session : Session} {walk next : Walk} {entry : Entry}
  {lastErr : Option Error} {trace : List WalkEvent}

theorem Settled.latestFailure_eq {key : String} (settled : Settled key walk next) :
    latestFailure next.trace = latestFailure walk.trace := by
  induction settled with
  | once change clears => rfl
  | again settled change clears ih => exact ih

theorem Settled.latestSkip_eq {key : String} (settled : Settled key walk next) :
    latestSkip next.trace = latestSkip walk.trace := by
  induction settled with
  | once change clears => rfl
  | again settled change clears ih => exact ih

theorem carried_failed {provider : String} {error reported : Error}
    (failure : latestFailure trace = some (provider, error)) (unskipped : latestSkip trace = none)
    (reports : Reports provider error reported) : Carried trace (some reported) := by
  intro other another found
  obtain ⟨rfl, rfl⟩ := Prod.mk.inj (Option.some.inj (failure.symm.trans found))
  rw [unskipped]
  exact ⟨reported, rfl, reports⟩

/-- A gate refusal cannot take the place of a carried error. -/
theorem Carried.or (carried : Carried trace lastErr) (refusal : Error) :
    Carried trace (lastErr.or (some refusal)) := by
  intro provider error found
  have kept := carried provider error found
  cases skip : latestSkip trace with
  | some skipped =>
    simp only [skip] at kept ⊢
    rw [kept]
    rfl
  | none =>
    simp only [skip] at kept ⊢
    obtain ⟨reported, same, reports⟩ := kept
    exact ⟨reported, by rw [same]; rfl, reports⟩

theorem passOn_kept (carried : Carried walk.trace walk.lastErr) :
    ErrorKept session (walk.passOn session) := by
  unfold Walk.passOn
  split
  · exact ⟨rfl, carried⟩
  · exact carried

theorem admitted_kept {halfOpen : Bool} (carried : Carried walk.trace walk.lastErr) :
    ErrorKept session (admitted surface walk entry halfOpen) := by
  cases surface with
  | stream => exact carried
  | complete =>
    show ErrorKept session (if _ then _ else _)
    split
    · exact carried
    · exact carried

/-- Each way out of the error arm carries the error of the attempt that just failed. -/
theorem errorArm_kept {error : Error}
    (arm : ErrorArm session surface walk entry error next) : ErrorKept session next := by
  cases arm with
  | refreshing fresh => exact ⟨rfl, rfl⟩
  | repairing draws settles reports repaired =>
    exact carried_failed (settles.latestFailure_eq.trans rfl) (settles.latestSkip_eq.trans rfl)
      reports
  | retrying settles reports retried =>
    exact carried_failed (settles.latestFailure_eq.trans rfl) (settles.latestSkip_eq.trans rfl)
      reports
  | hopping settles reports =>
    exact carried_failed (settles.latestFailure_eq.trans rfl) (settles.latestSkip_eq.trans rfl)
      reports
  | ending settles reports => exact trivial

theorem ErrorKept.between (kept : ErrorKept session walk) (between : walk.phase = .between) :
    Carried walk.trace walk.lastErr := by
  unfold ErrorKept at kept
  rw [between] at kept
  exact kept

theorem ErrorKept.inside {point : Point} (kept : ErrorKept session walk)
    (inside : walk.phase = .inside entry point) (settled : ∀ error, point ≠ .refreshing error) :
    Carried walk.trace walk.lastErr := by
  unfold ErrorKept at kept
  rw [inside] at kept
  cases point with
  | gating => exact kept
  | sleeping => exact kept
  | calling => exact kept
  | refreshing error => exact absurd rfl (settled error)

theorem ErrorKept.refreshing {error : Error} (kept : ErrorKept session walk)
    (refreshing : walk.phase = .inside entry (.refreshing error)) :
    latestFailure walk.trace = some (entry.target.providerName, error) ∧
      latestSkip walk.trace = none := by
  unfold ErrorKept at kept
  rw [refreshing] at kept
  exact kept

theorem errorKept_move {label : Label} (kept : ErrorKept session walk)
    (move : Moves surface session walk label next) : ErrorKept session next := by
  cases move with
  | exhausted between last => exact ⟨rfl, kept.between between⟩
  | skipped error between more =>
    apply passOn_kept
    intro provider failure found
    exact rfl
  | rejected error between more => exact trivial
  | prepared preparation between more => exact kept.between between
  | refused body gating bits =>
    have carried := kept.inside gating nofun
    exact passOn_kept (carried.or _)
  | @admitted entry gates claimed halfOpen gating bits guarded =>
    have carried : Carried (walk.noteConsulted entry gates claimed).trace walk.lastErr :=
      kept.inside gating nofun
    exact admitted_kept carried
  | woken sleeping => exact kept.inside sleeping nofun
  | served calling settles => exact trivial
  | servedUnprobed calling unprobed => exact trivial
  | errored calling arm => exact errorArm_kept arm
  | @refreshed entry error refreshing =>
    have failed := kept.refreshing refreshing
    have released := settled_release walk entry.target.stateKey
    exact carried_failed (released.latestFailure_eq.trans failed.1)
      (released.latestSkip_eq.trans failed.2) (.inl rfl)
  | refreshDied refusal refreshing => exact trivial
  | dropped inside suspended => exact trivial
  | others theirs => exact kept

end Carrying

theorem preserves_errorKept (surface : Surface) (session : Session) :
    (machine surface session).Preserves (ErrorKept session) :=
  fun _ _ _ kept taken => errorKept_move kept (step_moves taken)

/-- A walk that exhausts its chain after a failed attempt reports the latest failed attempt
exactly when no entry passed over since then left another error. -/
theorem exhausted_reports_iff (surface : Surface) (session : Session)
    (gates : KeyedMap String ProviderState) (chain : List DispatchTarget) (labels : List Label)
    (final : Walk)
    (reached : (machine surface session).run (.start gates chain) labels = some final)
    (error : Error) (exhausted : final.phase = .finished (.exhausted error)) (provider : String)
    (failure : Error) (failed : latestFailure final.trace = some (provider, failure)) :
    Reports provider failure error ↔
      ∀ skip, latestSkip final.trace = some skip → Reports provider failure skip := by
  have initially : ErrorKept session (.start gates chain) := nofun
  have kept := (preserves_errorKept surface session).run _ initially reached
  unfold ErrorKept at kept
  rw [exhausted] at kept
  obtain ⟨given, carried⟩ := kept
  have latest := carried provider failure failed
  cases skipped : latestSkip final.trace with
  | some skip =>
    simp only [skipped] at latest
    rw [given, latest]
    constructor
    · intro reports another same
      exact Option.some.inj same ▸ reports
    · intro reports
      exact reports skip rfl
  | none =>
    simp only [skipped] at latest
    obtain ⟨reported, same, reports⟩ := latest
    rw [given, same]
    constructor
    · intro _ skip found
      contradiction
    · intro _
      exact reports

section Masked

def overloaded : Error := .plain "first" 503 "overloaded"

def unavailable : Reply :=
  .failed overloaded { nativeClass := .serverError, namesField := false, namesCanary := false }

/-- What a rolled-back strip leaves when it routes an entry away. -/
def rolledBack : Error := .validation "strip would leave the request malformed"

/-- The second entry is refused by its gate, and the chain ends. -/
def refusedLater : List Label :=
  [.enter plainPreparation, .gate 0, .reply 0 unavailable, .enter plainPreparation, .gate 0,
    .enter plainPreparation]

def parkedGates : KeyedMap String ProviderState :=
  (∅ : KeyedMap String ProviderState).insert "second"
    ((ProviderState.new { rpmLimit := none, circuitFailures := none, circuitCooldownMs := none }
      0).forceOpen 0 1)

theorem exhausted_reports_iff_refused :
    ∃ final, (machine .complete (plainSession 0)).run
        (.start parkedGates [seatOf "first", seatOf "second"]) refusedLater = some final ∧
      final.phase = .finished (.exhausted overloaded) ∧
      (Reports "first" overloaded overloaded ↔
        ∀ skip, latestSkip final.trace = some skip → Reports "first" overloaded skip) := by
  obtain ⟨final, reached, exhausted, failed⟩ : ∃ final, (machine .complete (plainSession 0)).run
      (.start parkedGates [seatOf "first", seatOf "second"]) refusedLater = some final ∧
      final.phase = .finished (.exhausted overloaded) ∧
      latestFailure final.trace = some ("first", overloaded) := ⟨_, rfl, rfl, rfl⟩
  exact ⟨final, reached, exhausted,
    exhausted_reports_iff .complete (plainSession 0) parkedGates
      [seatOf "first", seatOf "second"] refusedLater final reached overloaded exhausted "first" overloaded failed⟩

/-- The second entry is routed away, and its validation error takes the place of the 503. -/
def routedAwayLater : List Label :=
  [.enter plainPreparation, .gate 0, .reply 0 unavailable,
    .enter { plainPreparation with strip := .routeAway rolledBack }, .enter plainPreparation]

theorem routeAway_masks_failure :
    ∃ final, (machine .complete (plainSession 0)).run
        (.start ∅ [seatOf "first", seatOf "second"]) routedAwayLater = some final ∧
      final.phase = .finished (.exhausted rolledBack) ∧
      latestFailure final.trace = some ("first", overloaded) ∧
      ¬Reports "first" overloaded rolledBack :=
  ⟨_, rfl, rfl, rfl, by decide⟩

end Masked
end Routectl.Dispatch
