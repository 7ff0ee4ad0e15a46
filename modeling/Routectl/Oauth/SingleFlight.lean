import Routectl.Oauth.Presentation

/-! What the refresh calls of one store keep over a run: how often a token is presented, what
a cooldown holds back and for how long, and which call waits for which. -/
namespace Routectl.Oauth
open Library

/-- The generation a request was made under. -/
def Phase.genBefore : Phase → Option Nat
  | .posting _ genBefore => some genBefore
  | .posted _ genBefore _ => some genBefore
  | _ => none

/-- The transient failures of a seat since its last written rotation, and when the last was. -/
def failuresAfter (seat : String) : Option (Nat × Nat) → CallEvent → Option (Nat × Nat)
  | failures, .failed own error now =>
    if own = seat && isTransientRefreshError error then
      some ((failures.elim 0 Prod.fst) + 1, now)
    else failures
  | failures, .written own => if own = seat then none else failures
  | failures, _ => failures

def failures (seat : String) (log : List CallEvent) : Option (Nat × Nat) :=
  log.foldl (failuresAfter seat) none

/-- The window after so many failures in a row. -/
def window (count : Nat) : Nat := min (5 * 2 ^ (count - 1)) 60

def cooldownEnd (count last : Nat) : Nat := min (last + window count) u64Max

/-- What a seat's cooldown entry tells of its failures. -/
def Tallies (cooldown : Option SeatCooldown) : Option (Nat × Nat) → Prop
  | none => cooldown = none
  | some (count, last) =>
    1 ≤ count ∧ ∃ entry, cooldown = some entry ∧ entry.consecutive = min count u32Max ∧
      entry.nextAllowedUnix = cooldownEnd count last

section Cooldowns
variable {store : OAuthStore} {seat : String}

theorem window_eq {count : Nat} (some_ : 1 ≤ count) :
    (if 5 ≤ min count u32Max then cooldownCapSecs
      else cooldownBaseSecs * 2 ^ (min count u32Max - 1)) = window count := by
  rw [window, u32Max, cooldownCapSecs, cooldownBaseSecs]
  by_cases many : 5 ≤ count
  · rw [if_pos (by omega)]
    have grown : 2 ^ 4 ≤ 2 ^ (count - 1) := Nat.pow_le_pow_right (by omega) (by omega)
    omega
  · have few : min count (2 ^ 32 - 1) = count := by omega
    rw [few, if_neg many]
    have small : 2 ^ (count - 1) ≤ 2 ^ 3 := Nat.pow_le_pow_right (by omega) (by omega)
    omega

theorem recordTransientFailure_tallies {before : Option (Nat × Nat)} (now : Nat)
    (tallies : Tallies (store.refreshCooldowns.lookup seat) before) :
    Tallies ((store.recordTransientFailure seat now).refreshCooldowns.lookup seat)
      (some ((before.elim 0 Prod.fst) + 1, now)) := by
  have recorded : min (((store.refreshCooldowns.lookup seat).getD {}).consecutive + 1) u32Max =
      min (before.elim 0 Prod.fst + 1) u32Max := by
    cases before with
    | none =>
      have absent : store.refreshCooldowns.lookup seat = none := tallies
      rw [absent]
      rfl
    | some failed =>
      obtain ⟨count, last⟩ := failed
      obtain ⟨-, entry, there, consecutive, -⟩ := tallies
      rw [there, Option.getD_some, consecutive]
      simp only [Option.elim_some, u32Max]
      omega
  refine ⟨Nat.le_add_left 1 _, ?_⟩
  simp only [OAuthStore.recordTransientFailure, recorded, AList.lookup_insert]
  refine ⟨_, rfl, rfl, ?_⟩
  simp only [cooldownEnd, window_eq (Nat.le_add_left 1 (before.elim 0 Prod.fst))]

theorem lockSeat_waits {locked : OAuthStore} {provider : String} {current : TokenRecord}
    {force bypassCooldown : Bool}
    (locks : store.lockSeat seat provider current force bypassCooldown = some locked) :
    locked.reloadGen = store.reloadGen ∧ locked.refreshCooldowns = store.refreshCooldowns := by
  rw [OAuthStore.lockSeat] at locks
  split at locks
  case h_1 =>
    cases locks
    exact ⟨rfl, rfl⟩
  case h_2 => cases locks

/-- The record found at the second look is still the one the call is about. -/
def Flight.Stale (flight : Flight) (record : TokenRecord) (now : Nat) : Prop :=
  if flight.force then record.accessToken = flight.current.accessToken
  else record.nearExpiry refreshLeadSecs now = true

theorem reread_outcome (store : OAuthStore) (seat : String) (now : Nat) (flight : Flight) :
    (∃ error, store.readRecord seat = .error error ∧
        store.reread seat now flight = (store.release seat, some (.error (.oauth error)))) ∨
      ∃ record, store.readRecord seat = .ok record ∧
        (flight.Stale record now ∧
            store.reread seat now flight = (store.advance seat flight (.reread record), none) ∨
          ¬ flight.Stale record now ∧
            store.reread seat now flight = (store.release seat, some (.ok record))) := by
  rw [OAuthStore.reread]
  cases found : store.readRecord seat with
  | error error => exact .inl ⟨error, rfl, rfl⟩
  | ok record =>
    refine .inr ⟨record, rfl, ?_⟩
    by_cases stale : flight.Stale record now
    · exact .inl ⟨stale, if_pos stale⟩
    · exact .inr ⟨stale, if_neg stale⟩

theorem reread_waits (store : OAuthStore) (seat : String) (now : Nat) (flight : Flight) :
    (store.reread seat now flight).1.reloadGen = store.reloadGen ∧
      (store.reread seat now flight).1.refreshCooldowns = store.refreshCooldowns := by
  rcases reread_outcome store seat now flight with
    ⟨error, -, ended⟩ | ⟨record, -, ⟨-, goes⟩ | ⟨-, ended⟩⟩
  · rw [ended]
    exact ⟨rfl, rfl⟩
  · rw [goes]
    exact ⟨rfl, rfl⟩
  · rw [ended]
    exact ⟨rfl, rfl⟩

/-- A gate that is closed counts one more attempt as suppressed; nothing else changes. -/
theorem cooldownRemaining_tallies (store : OAuthStore) (seat other : String) (now : Nat)
    {failed : Option (Nat × Nat)} (tallies : Tallies (store.refreshCooldowns.lookup other) failed) :
    Tallies ((store.cooldownRemaining seat now).1.refreshCooldowns.lookup other) failed := by
  rw [OAuthStore.cooldownRemaining]
  split
  case h_1 => exact tallies
  case h_2 cooldown there =>
    split
    case isTrue =>
      by_cases mine : other = seat
      · subst mine
        rw [AList.lookup_insert]
        cases failed with
        | none =>
          have absent : store.refreshCooldowns.lookup other = none := tallies
          cases absent.symm.trans there
        | some failed =>
          obtain ⟨some_, entry, found, consecutive, ends⟩ := tallies
          cases found.symm.trans there
          exact ⟨some_, _, rfl, consecutive, ends⟩
      · rw [AList.lookup_insert_ne mine]
        exact tallies
    case isFalse => exact tallies

theorem snapshot_waits (store : OAuthStore) (seat : String) (now : Nat) (flight : Flight)
    (record : TokenRecord) :
    (store.snapshot seat now flight record).1.reloadGen = store.reloadGen ∧
      ∀ other failed, Tallies (store.refreshCooldowns.lookup other) failed →
        Tallies ((store.snapshot seat now flight record).1.refreshCooldowns.lookup other)
          failed := by
  have gated : (if flight.bypassCooldown then (store, none)
        else store.cooldownRemaining seat now).1.reloadGen = store.reloadGen ∧
      ∀ other failed, Tallies (store.refreshCooldowns.lookup other) failed →
        Tallies ((if flight.bypassCooldown then (store, none)
          else store.cooldownRemaining seat now).1.refreshCooldowns.lookup other) failed := by
    split
    case isTrue => exact ⟨rfl, fun _ _ tallies => tallies⟩
    case isFalse =>
      refine ⟨?_, fun other failed tallies => cooldownRemaining_tallies store seat other now tallies⟩
      rw [OAuthStore.cooldownRemaining]
      repeat' split
      all_goals rfl
  rw [OAuthStore.snapshot]
  generalize (if flight.bypassCooldown then (store, none)
    else store.cooldownRemaining seat now) = outcome at gated ⊢
  obtain ⟨passed, remaining⟩ := outcome
  cases remaining with
  | some seconds => exact gated
  | none => exact gated

theorem commit_waits (store : OAuthStore) (seat : String) (disk : Disk) (outcome : Io)
    (renewed : TokenRecord) :
    let committed := store.commit seat disk outcome store.reloadGen renewed
    committed.2.1.reloadGen = store.reloadGen ∧
      ((∃ record, committed.2.2 = .ok record) ∧
          committed.2.1.refreshCooldowns = store.refreshCooldowns.erase seat ∨
        (∃ error, committed.2.2 = .error error) ∧
          committed.2.1.refreshCooldowns = store.refreshCooldowns) := by
  have merged := merge_store (store.release seat) disk outcome (OAuthStore.renew seat renewed)
  rw [commit_now]
  generalize (store.release seat).merge disk outcome (OAuthStore.renew seat renewed) = result
    at merged ⊢
  obtain ⟨disk, after, reported⟩ := result
  have same : after.reloadGen = store.reloadGen ∧
      after.refreshCooldowns = store.refreshCooldowns := by
    rcases merged with same | ⟨fresh, -, same⟩
    · simp only at same
      rw [same]
      exact ⟨rfl, rfl⟩
    · simp only at same
      rw [same]
      exact ⟨rfl, rfl⟩
  cases reported with
  | error error => exact ⟨same.1, .inr ⟨⟨_, rfl⟩, same.2⟩⟩
  | ok seatPresent =>
    cases seatPresent with
    | true =>
      refine ⟨same.1, .inl ⟨⟨_, rfl⟩, ?_⟩⟩
      simp only [if_true, OAuthStore.clearCooldown, same.2]
    | false => exact ⟨same.1, .inr ⟨⟨_, rfl⟩, same.2⟩⟩

end Cooldowns

namespace Calls

/-- What a run keeps: requests under the current generation, and cooldowns that tell the
failures in the log. -/
structure Sound (calls : Calls) : Prop where
  current : ∀ seat phase genBefore, calls.store.phase seat = some phase →
    phase.genBefore = some genBefore → genBefore = calls.store.reloadGen
  tallies : ∀ seat, Tallies (calls.store.refreshCooldowns.lookup seat) (failures seat calls.log)

theorem Idle.sound {calls : Calls} (idle : calls.Idle) : calls.Sound := by
  constructor
  · intro seat phase genBefore there
    rw [OAuthStore.phase, idle.flights] at there
    cases there
  · intro seat
    rw [idle.cooldowns, idle.log]
    rfl

end Calls

section Keeping
variable {calls next : Calls} {own : String}

theorem failures_append (seat : String) (log : List CallEvent) (event : CallEvent) :
    failures seat (log ++ [event]) = failuresAfter seat (failures seat log) event := by
  rw [failures, List.foldl_append]
  rfl

/-- A step of one seat's refresh that starts no request under another generation. -/
theorem current_of_frames (sound : calls.Sound)
    (frames : OAuthStore.Frames own calls.store next.store)
    (generation : next.store.reloadGen = calls.store.reloadGen)
    (stands : ∀ phase genBefore, next.store.phase own = some phase →
      phase.genBefore = some genBefore → genBefore = calls.store.reloadGen) :
    ∀ seat phase genBefore, next.store.phase seat = some phase →
      phase.genBefore = some genBefore → genBefore = next.store.reloadGen := by
  intro seat phase genBefore there under
  rw [generation]
  by_cases mine : seat = own
  · subst mine
    exact stands phase genBefore there under
  · rw [frames.phases seat mine] at there
    exact sound.current seat phase genBefore there under

theorem sound_note (sound : calls.Sound) {event : CallEvent}
    (quiet : ∀ seat failed, failuresAfter seat failed event = failed) :
    (calls.note event).Sound := by
  refine ⟨sound.current, ?_⟩
  intro other
  rw [Calls.note, failures_append, quiet]
  exact sound.tallies other

theorem sound_returned (sound : calls.Sound) (seat : String) (result : Refreshed) :
    (calls.note (.returned seat result)).Sound :=
  sound_note sound fun _ _ => rfl

theorem get_sound (sound : calls.Sound) (seat provider : String) (now : Nat) :
    (calls.get seat provider now).Sound := by
  rw [Calls.get]
  split
  case h_1 => exact sound_returned sound seat _
  case h_2 =>
    split
    case isTrue => exact ⟨sound.current, sound.tallies⟩
    case isFalse => exact sound_returned sound seat _

theorem forceRefreshSeat_sound (sound : calls.Sound) (seat provider : String)
    (bypassCooldown : Bool) : (calls.forceRefreshSeat seat provider bypassCooldown).Sound := by
  rw [Calls.forceRefreshSeat]
  split
  case h_1 => exact sound_returned sound seat _
  case h_2 => exact ⟨sound.current, sound.tallies⟩

theorem lock_sound (sound : calls.Sound) {store : OAuthStore} {caller : Caller}
    {waiting : List Caller}
    (locks : calls.store.lockSeat caller.seat caller.provider caller.current caller.force
      caller.bypassCooldown = some store) : Calls.Sound { calls with store, waiting } := by
  obtain ⟨frames, -, locked⟩ := OAuthStore.lockSeat_phase locks
  obtain ⟨generation, cooldowns⟩ := lockSeat_waits locks
  constructor
  · apply @current_of_frames calls { calls with store, waiting } caller.seat sound frames generation
    intro phase genBefore there under
    cases locked.symm.trans there
    cases under
  · intro seat
    simp only [cooldowns]
    exact sound.tallies seat

theorem reread_sound (sound : calls.Sound) (now : Nat) (flight : Flight) :
    (calls.reread own now flight).Sound := by
  obtain ⟨frames, stands⟩ := OAuthStore.reread_phase calls.store own now flight
  obtain ⟨generation, cooldowns⟩ := reread_waits calls.store own now flight
  have reread : Calls.Sound { calls with store := (calls.store.reread own now flight).1 } := by
    constructor
    · apply @current_of_frames calls
        { calls with store := (calls.store.reread own now flight).1 } own sound frames generation
      intro phase genBefore there under
      rcases stands with ends | ⟨record, -, goes⟩
      · cases ends.symm.trans there
      · cases goes.symm.trans there
        cases under
    · intro seat
      simp only [cooldowns]
      exact sound.tallies seat
  rw [reread_eq]
  cases (calls.store.reread own now flight).2 with
  | none => exact reread
  | some result => exact sound_returned reread own result

theorem send_sound (sound : calls.Sound) (now : Nat) (flight : Flight) (record : TokenRecord) :
    (calls.send own now flight record).Sound := by
  obtain ⟨frames, stands⟩ := OAuthStore.snapshot_phase calls.store own now flight record
  obtain ⟨generation, cooldowns⟩ := snapshot_waits calls.store own now flight record
  have gated : Calls.Sound { calls with store := (calls.store.snapshot own now flight record).1 } := by
    constructor
    · apply @current_of_frames calls
        { calls with store := (calls.store.snapshot own now flight record).1 } own sound frames
        generation
      intro phase genBefore there under
      rcases stands with ends | goes
      · cases ends.symm.trans there
      · cases goes.symm.trans there
        cases under
        rfl
    · intro seat
      exact cooldowns seat _ (sound.tallies seat)
  rw [Calls.send]
  generalize calls.store.snapshot own now flight record = outcome at gated ⊢
  obtain ⟨store, result⟩ := outcome
  cases result with
  | some result => exact sound_returned gated own result
  | none => exact sound_note gated fun _ _ => rfl

theorem answer_sound (sound : calls.Sound) {now genBefore : Nat} {flight : Flight}
    {record : TokenRecord} (held : calls.store.flights.lookup own = some flight)
    (posting : flight.phase = .posting record genBefore) (reply : Except OAuthError TokenRecord) :
    (calls.answer own now flight record genBefore reply).Sound := by
  have phase : calls.store.phase own = some (.posting record genBefore) := by
    rw [phase_of_flight held, posting]
  cases reply with
  | ok renewed =>
    obtain ⟨frames, goes⟩ :=
      OAuthStore.answer_accepted calls.store own now flight record genBefore renewed
    have answered : Calls.Sound { calls with
        store := (calls.store.answer own now flight record genBefore (.ok renewed)).1 } := by
      refine ⟨?_, sound.tallies⟩
      apply @current_of_frames calls { calls with
        store := (calls.store.answer own now flight record genBefore (.ok renewed)).1 } own sound
        frames rfl
      intro standing under there generation
      cases goes.symm.trans there
      exact sound.current own _ under phase generation
    exact sound_note answered fun _ _ => rfl
  | error error =>
    obtain ⟨frames, ends⟩ :=
      OAuthStore.answer_refused calls.store own now flight record genBefore error
    constructor
    · apply @current_of_frames calls
        (calls.answer own now flight record genBefore (.error error)) own sound frames
      · simp only [Calls.answer, OAuthStore.answer, Calls.note]
        split <;> rfl
      · intro standing under there
        cases ends.symm.trans there
    · intro seat
      have log : (calls.answer own now flight record genBefore (.error error)).log =
          calls.log ++ [.failed own error now] := rfl
      have cooldowns : (calls.answer own now flight record genBefore (.error error)).store.refreshCooldowns =
          if isTransientRefreshError error then
            (calls.store.recordTransientFailure own now).refreshCooldowns
          else calls.store.refreshCooldowns := by
        simp only [Calls.answer, OAuthStore.answer, Calls.note]
        split <;> rfl
      rw [log, failures_append, cooldowns, failuresAfter]
      by_cases transient : isTransientRefreshError error = true
      · rw [if_pos transient]
        by_cases mine : own = seat
        · subst mine
          rw [if_pos (by simp [transient])]
          exact recordTransientFailure_tallies now (sound.tallies own)
        · rw [if_neg (by simp [mine]), OAuthStore.recordTransientFailure,
            AList.lookup_insert_ne (Ne.symm mine)]
          exact sound.tallies seat
      · rw [if_neg transient, if_neg (by simp [transient])]
        exact sound.tallies seat

theorem endCommit_sound (sound : calls.Sound) {outcome : Io} {record renewed : TokenRecord}
    (posted : calls.store.phase own = some (.posted record calls.store.reloadGen renewed)) :
    (calls.endCommit own outcome record calls.store.reloadGen renewed).Sound := by
  obtain ⟨-, store, told⟩ :=
    endCommit_eq calls own outcome record calls.store.reloadGen renewed
  obtain ⟨generation, waits⟩ := commit_waits calls.store own calls.disk outcome renewed
  generalize calls.endCommit own outcome record calls.store.reloadGen renewed = ended
    at store told ⊢
  constructor
  · intro seat phase genBefore there under
    rw [store, generation]
    rw [store] at there
    by_cases mine : seat = own
    · subst mine
      have free := (commit_own calls.store seat calls.disk outcome renewed).phase
      cases free.symm.trans there
    · obtain ⟨-, -, -, same⟩ := commit_others mine calls.store calls.disk outcome
        calls.store.reloadGen renewed
      rw [same] at there
      exact sound.current seat phase genBefore there under
  · intro seat
    rw [store]
    rcases told with ⟨⟨result, succeeded⟩, log⟩ | ⟨⟨error, failed⟩, log⟩
    · rcases waits with ⟨-, erased⟩ | ⟨⟨error, failed⟩, -⟩
      · rw [log, failures_append, erased, failuresAfter]
        by_cases mine : own = seat
        · subst mine
          rw [if_pos rfl, AList.lookup_erase]
          rfl
        · rw [if_neg mine, AList.lookup_erase_ne (Ne.symm mine)]
          exact sound.tallies seat
      · cases succeeded.symm.trans failed
    · rcases waits with ⟨⟨result, succeeded⟩, -⟩ | ⟨-, kept⟩
      · cases succeeded.symm.trans failed
      · rw [log, failures_append, kept]
        exact sound.tallies seat

theorem step_sound_calls {step : CallStep} (sound : calls.Sound)
    (stepped : calls.step step = some next) :
    next.Sound ∧ ∀ seat token, Charges seat token calls next := by
  cases step with
  | get seat provider now =>
    obtain ⟨-, rfl⟩ := step_get stepped
    exact ⟨get_sound sound seat provider now, fun _ _ => get_charges calls seat provider now⟩
  | forceRefreshSeat seat provider bypassCooldown =>
    obtain ⟨-, rfl⟩ := step_forceRefreshSeat stepped
    exact ⟨forceRefreshSeat_sound sound seat provider bypassCooldown,
      fun _ _ => forceRefreshSeat_charges calls seat provider bypassCooldown⟩
  | lock turn =>
    obtain ⟨caller, store, -, locks, rfl⟩ := step_lock stepped
    exact ⟨lock_sound sound locks, fun _ _ => lock_charges locks⟩
  | reread seat now =>
    obtain ⟨flight, held, locked, -, rfl⟩ := step_reread stepped
    exact ⟨reread_sound sound now flight, fun _ _ => reread_charges held locked⟩
  | send seat now =>
    obtain ⟨flight, record, held, reread, rfl⟩ := step_send stepped
    exact ⟨send_sound sound now flight record, fun _ _ => send_charges held reread⟩
  | answer seat now reply =>
    obtain ⟨flight, record, genBefore, held, posting, rfl⟩ := step_answer stepped
    exact ⟨answer_sound sound held posting reply, fun _ _ => answer_charges held posting⟩
  | beginCommit seat =>
    obtain ⟨record, genBefore, renewed, -, -, rfl⟩ := step_beginCommit stepped
    exact ⟨⟨sound.current, sound.tallies⟩, fun seat token => .refl seat token calls⟩
  | endCommit seat outcome =>
    obtain ⟨record, genBefore, renewed, posted, -, rfl⟩ := step_endCommit stepped
    obtain rfl := sound.current seat _ genBefore posted rfl
    exact ⟨endCommit_sound sound posted, fun _ _ => endCommit_charges posted⟩

end Keeping

/-- What a step needs of its own call. -/
def CallStep.Ready (calls : Calls) : CallStep → Prop
  | .get _ _ _ => True
  | .forceRefreshSeat _ _ _ => True
  | .lock turn =>
    ∃ caller, calls.waiting[turn]? = some caller ∧ calls.store.phase caller.seat = none
  | .reread seat _ => calls.store.phase seat = some .locked
  | .send seat _ => ∃ record, calls.store.phase seat = some (.reread record)
  | .answer seat _ _ => ∃ record genBefore, calls.store.phase seat = some (.posting record genBefore)
  | .beginCommit seat =>
    ∃ record genBefore renewed, calls.store.phase seat = some (.posted record genBefore renewed)
  | .endCommit seat _ =>
    calls.writing = some seat ∧
      ∃ record genBefore renewed, calls.store.phase seat = some (.posted record genBefore renewed)

/-- The steps that take the file's lock. -/
def CallStep.takesFile : CallStep → Bool
  | .get _ _ _ | .forceRefreshSeat _ _ _ | .reread _ _ | .beginCommit _ => true
  | _ => false

section Waiting
variable {calls next : Calls} {seat : String}

theorem flight_of_phase {store : OAuthStore} {phase : Phase} (there : store.phase seat = some phase) :
    ∃ flight, store.flights.lookup seat = some flight ∧ flight.phase = phase :=
  Option.map_eq_some_iff.mp there

/-- A step waits for its own seat, and for the file's lock where it takes that. -/
theorem step_isSome_iff (calls : Calls) (step : CallStep) :
    (calls.step step).isSome = true ↔
      step.Ready calls ∧ (step.takesFile = true → calls.writing = none) := by
  constructor
  · intro enabled
    obtain ⟨next, stepped⟩ := Option.isSome_iff_exists.mp enabled
    cases step with
    | get seat provider now => exact ⟨trivial, fun _ => (step_get stepped).1⟩
    | forceRefreshSeat seat provider bypassCooldown =>
      exact ⟨trivial, fun _ => (step_forceRefreshSeat stepped).1⟩
    | lock turn =>
      obtain ⟨caller, store, there, locks, -⟩ := step_lock stepped
      exact ⟨⟨caller, there, (OAuthStore.lockSeat_phase locks).2.1⟩, nofun⟩
    | reread seat now =>
      obtain ⟨flight, held, locked, free, -⟩ := step_reread stepped
      exact ⟨by rw [CallStep.Ready, phase_of_flight held, locked], fun _ => free⟩
    | send seat now =>
      obtain ⟨flight, record, held, reread, -⟩ := step_send stepped
      exact ⟨⟨record, by rw [phase_of_flight held, reread]⟩, nofun⟩
    | answer seat now reply =>
      obtain ⟨flight, record, genBefore, held, posting, -⟩ := step_answer stepped
      exact ⟨⟨record, genBefore, by rw [phase_of_flight held, posting]⟩, nofun⟩
    | beginCommit seat =>
      obtain ⟨record, genBefore, renewed, posted, free, -⟩ := step_beginCommit stepped
      exact ⟨⟨record, genBefore, renewed, posted⟩, fun _ => free⟩
    | endCommit seat outcome =>
      obtain ⟨record, genBefore, renewed, posted, own, -⟩ := step_endCommit stepped
      exact ⟨⟨own, record, genBefore, renewed, posted⟩, nofun⟩
  · rintro ⟨ready, file⟩
    cases step with
    | get seat provider now =>
      rw [Calls.step, if_pos (file rfl)]
      rfl
    | forceRefreshSeat seat provider bypassCooldown =>
      rw [Calls.step, if_pos (file rfl)]
      rfl
    | lock turn =>
      obtain ⟨caller, there, free⟩ := ready
      have unlocked : calls.store.flights.lookup caller.seat = none := Option.map_eq_none_iff.mp free
      simp [Calls.step, Calls.lock, there, OAuthStore.lockSeat, unlocked]
    | reread seat now =>
      obtain ⟨flight, held, locked⟩ := flight_of_phase ready
      simp [Calls.step, held, locked, file rfl]
    | send seat now =>
      obtain ⟨record, there⟩ := ready
      obtain ⟨flight, held, reread⟩ := flight_of_phase there
      simp [Calls.step, held, reread]
    | answer seat now reply =>
      obtain ⟨record, genBefore, there⟩ := ready
      obtain ⟨flight, held, posting⟩ := flight_of_phase there
      simp [Calls.step, held, posting]
    | beginCommit seat =>
      obtain ⟨record, genBefore, renewed, posted⟩ := ready
      simp [Calls.step, posted, file rfl]
    | endCommit seat outcome =>
      obtain ⟨own, record, genBefore, renewed, posted⟩ := ready
      simp [Calls.step, posted, own]

/-- The holder of the file's lock has a rotation to write. -/
def Calls.Held (calls : Calls) : Prop :=
  ∀ seat, calls.writing = some seat →
    ∃ record genBefore renewed, calls.store.phase seat = some (.posted record genBefore renewed)

theorem held_of_frames {own : String} (holds : calls.Held)
    (unposted : ∀ record genBefore renewed,
      calls.store.phase own ≠ some (.posted record genBefore renewed))
    (frames : OAuthStore.Frames own calls.store next.store) (writing : next.writing = calls.writing) :
    next.Held := by
  intro seat writes
  rw [writing] at writes
  obtain ⟨record, genBefore, renewed, posted⟩ := holds seat writes
  have different : seat ≠ own := by
    rintro rfl
    exact unposted record genBefore renewed posted
  rw [frames.phases seat different]
  exact ⟨record, genBefore, renewed, posted⟩

theorem Calls.Idle.held (idle : calls.Idle) : calls.Held := by
  intro seat writes
  cases idle.writing.symm.trans writes

theorem noteResult_writing (calls : Calls) (own : String) (result : Option Refreshed) :
    (calls.noteResult own result).writing = calls.writing := by
  cases result <;> rfl

theorem unposted_of_flight {flight : Flight} {own : String}
    (held : calls.store.flights.lookup own = some flight)
    (other : ∀ record genBefore renewed, flight.phase ≠ .posted record genBefore renewed) :
    ∀ record genBefore renewed,
      calls.store.phase own ≠ some (.posted record genBefore renewed) := by
  intro record genBefore renewed posted
  rw [phase_of_flight held] at posted
  exact other record genBefore renewed (Option.some.inj posted)

theorem step_held {step : CallStep} (holds : calls.Held) (stepped : calls.step step = some next) :
    next.Held := by
  cases step with
  | get seat provider now =>
    obtain ⟨-, rfl⟩ := step_get stepped
    rw [Calls.get]
    repeat' split
    all_goals exact holds
  | forceRefreshSeat seat provider bypassCooldown =>
    obtain ⟨-, rfl⟩ := step_forceRefreshSeat stepped
    rw [Calls.forceRefreshSeat]
    split <;> exact holds
  | lock turn =>
    obtain ⟨caller, store, -, locks, rfl⟩ := step_lock stepped
    obtain ⟨frames, free, -⟩ := OAuthStore.lockSeat_phase locks
    refine @held_of_frames calls _ caller.seat holds ?_ frames rfl
    intro record genBefore renewed posted
    cases free.symm.trans posted
  | reread seat now =>
    obtain ⟨flight, held, locked, -, rfl⟩ := step_reread stepped
    have frames := (OAuthStore.reread_phase calls.store seat now flight).1
    have unposted := unposted_of_flight held (by simp [locked])
    apply held_of_frames holds unposted
    · rw [reread_eq, store_noteResult]
      exact frames
    · rw [reread_eq, noteResult_writing]
  | send seat now =>
    obtain ⟨flight, record, held, reread, rfl⟩ := step_send stepped
    have frames := (OAuthStore.snapshot_phase calls.store seat now flight record).1
    have unposted := unposted_of_flight held (by simp [reread])
    rw [Calls.send]
    generalize calls.store.snapshot seat now flight record = outcome at frames ⊢
    obtain ⟨store, result⟩ := outcome
    cases result with
    | some result => exact @held_of_frames calls _ seat holds unposted frames rfl
    | none => exact @held_of_frames calls _ seat holds unposted frames rfl
  | answer seat now reply =>
    obtain ⟨flight, record, genBefore, held, posting, rfl⟩ := step_answer stepped
    have unposted := unposted_of_flight held (by simp [posting])
    cases reply with
    | error error =>
      have frames :=
        (OAuthStore.answer_refused calls.store seat now flight record genBefore error).1
      exact @held_of_frames calls _ seat holds unposted frames rfl
    | ok renewed =>
      have frames :=
        (OAuthStore.answer_accepted calls.store seat now flight record genBefore renewed).1
      exact @held_of_frames calls _ seat holds unposted frames rfl
  | beginCommit seat =>
    obtain ⟨record, genBefore, renewed, posted, -, rfl⟩ := step_beginCommit stepped
    intro other writes
    cases writes
    exact ⟨record, genBefore, renewed, posted⟩
  | endCommit seat outcome =>
    obtain ⟨record, genBefore, renewed, -, -, rfl⟩ := step_endCommit stepped
    have released : (calls.endCommit seat outcome record genBefore renewed).writing = none := by
      rw [Calls.endCommit]
      generalize calls.store.commit seat calls.disk outcome genBefore renewed = committed
      obtain ⟨disk, store, result⟩ := committed
      cases result <;> rfl
    intro other writes
    cases released.symm.trans writes

end Waiting

section Runs
variable {calls final : Calls} {steps : List CallStep}

theorem run_sound (idle : calls.Idle) (ran : Calls.machine.run calls steps = some final) :
    (final.Sound ∧ final.Held) ∧ ∀ seat token, Charges seat token calls final := by
  have keeps : Calls.machine.Preserves fun calls => calls.Sound ∧ calls.Held := by
    intro before step after holds stepped
    exact ⟨(step_sound_calls holds.1 stepped).1, step_held holds.2 stepped⟩
  refine ⟨keeps.run _ ⟨idle.sound, idle.held⟩ ran, ?_⟩
  intro seat token
  refine keeps.run_relates _ (Charges.refl seat token)
    (fun _ _ _ earlier later => Charges.trans earlier later) ?_ ⟨idle.sound, idle.held⟩ ran
  intro before step after holds stepped
  exact (step_sound_calls holds.1 stepped).2 seat token

theorem presented_le (idle : calls.Idle) (ran : Calls.machine.run calls steps = some final)
    (seat token : String) :
    presented seat token final.log ≤
      (if calls.store.token seat = some token ∨ calls.disk.token seat = some token then 1 else 0) +
        given seat token final.log + lost seat token final.log := by
  have charges := (run_sound idle ran).2 seat token
  have stage : (calls.tokens seat).stage = .free := by
    rw [Calls.tokens, OAuthStore.phase, idle.flights]
    rfl
  have start : ((calls.tokens seat).presentable token).toNat =
      if calls.store.token seat = some token ∨ calls.disk.token seat = some token then 1 else 0 := by
    rw [SeatTokens.presentable, stage]
    simp only
    split
    case isTrue held => rw [(kept_iff calls seat token).mpr held, Bool.toNat_true]
    case isFalse free =>
      have none : (calls.tokens seat).kept token = false :=
        Bool.eq_false_iff.mpr fun held => free ((kept_iff calls seat token).mp held)
      rw [none, Bool.toNat_false]
  have clean : presented seat token calls.log = 0 ∧ given seat token calls.log = 0 ∧
      lost seat token calls.log = 0 := by
    rw [idle.log]
    exact ⟨rfl, rfl, rfl⟩
  rw [Charges, start] at charges
  omega

/-- A call whose gate is closed ends without a request. -/
theorem send_closed {seat : String} {now count last : Nat} {flight : Flight} {next : Calls}
    (sound : final.Sound) (held : final.store.flights.lookup seat = some flight)
    (gated : flight.bypassCooldown = false) (failed : failures seat final.log = some (count, last))
    (closed : now < cooldownEnd count last) (stepped : final.step (.send seat now) = some next) :
    ∃ remaining, next.log =
        final.log ++ [.returned seat (.error (.unavailable flight.provider remaining))] ∧
      next.store.phase seat = none := by
  obtain ⟨other, record, there, -, rfl⟩ := step_send stepped
  obtain rfl := Option.some.inj (there.symm.trans held)
  have tallies := sound.tallies seat
  rw [failed] at tallies
  obtain ⟨-, entry, armed, -, ends⟩ := tallies
  have remaining : (final.store.cooldownRemaining seat now).2 =
      some (entry.nextAllowedUnix - now) := by
    rw [OAuthStore.cooldownRemaining, armed]
    simp only
    rw [if_pos (by rw [ends]; exact closed)]
  refine ⟨entry.nextAllowedUnix - now, ?_⟩
  rw [Calls.send, OAuthStore.snapshot, gated]
  simp only [Bool.false_eq_true, if_false, remaining]
  exact ⟨rfl, OAuthStore.phase_release _ seat⟩

/-- A seat presents a token with success at most once for each time it came to hold it; a
forced call finds the replacement of its dead token; a call waits for its own seat, and for
the file where it reads or commits; a failed request changes neither cache nor file; and an
armed cooldown lets through no call that does not bypass it. -/
theorem refreshes_collapse (idle : calls.Idle)
    (ran : Calls.machine.run calls steps = some final) :
    (∀ seat token, presented seat token final.log ≤
      (if calls.store.token seat = some token ∨ calls.disk.token seat = some token then 1 else 0) +
        given seat token final.log + lost seat token final.log) ∧
    (∀ seat now flight record, final.store.flights.lookup seat = some flight →
      flight.phase = .locked → flight.force = true → final.store.readRecord seat = .ok record →
        record.accessToken ≠ flight.current.accessToken →
          ∀ next, final.step (.reread seat now) = some next →
            next = { final with store := final.store.release seat }.note
              (.returned seat (.ok record))) ∧
    ((∀ step, (final.step step).isSome = true ↔
        step.Ready final ∧ (step.takesFile = true → final.writing = none)) ∧
      ∀ seat, final.writing = some seat →
        ∀ outcome, (final.step (.endCommit seat outcome)).isSome = true) ∧
    (∀ seat now error next, final.step (.answer seat now (.error error)) = some next →
      next.disk = final.disk ∧ next.store.file = final.store.file) ∧
    ∀ seat now flight count last, final.store.flights.lookup seat = some flight →
      flight.bypassCooldown = false → failures seat final.log = some (count, last) →
        now < min (last + min (5 * 2 ^ (count - 1)) 60) u64Max →
          ∀ next, final.step (.send seat now) = some next →
            ∃ remaining, next.log =
                final.log ++ [.returned seat (.error (.unavailable flight.provider remaining))] ∧
              next.store.phase seat = none := by
  obtain ⟨⟨sound, holds⟩, -⟩ := run_sound idle ran
  refine ⟨presented_le idle ran, ?_, ⟨step_isSome_iff final, ?_⟩, ?_, ?_⟩
  · intro seat now flight record held locked forced found replaced next stepped
    obtain ⟨other, there, -, -, rfl⟩ := step_reread stepped
    obtain rfl := Option.some.inj (there.symm.trans held)
    have fresh : ¬ other.Stale record now := by
      rw [Flight.Stale, if_pos forced]
      exact replaced
    rw [reread_eq]
    rcases reread_outcome final.store seat now other with
      ⟨error, failed, -⟩ | ⟨again, same, ⟨stale, -⟩ | ⟨-, ended⟩⟩
    · cases failed.symm.trans found
    · cases same.symm.trans found
      exact absurd stale fresh
    · cases same.symm.trans found
      rw [ended]
      rfl
  · intro seat writes outcome
    exact (step_isSome_iff final (.endCommit seat outcome)).mpr ⟨⟨writes, holds seat writes⟩, nofun⟩
  · intro seat now error next stepped
    obtain ⟨flight, record, genBefore, -, -, rfl⟩ := step_answer stepped
    exact ⟨rfl, (OAuthStore.answer_refused final.store seat now flight record genBefore error).1.file⟩
  · intro seat now flight count last held gated failed closed next stepped
    exact send_closed sound held gated failed closed stepped

/-- Two seats that hold one token, and a store over them. -/
def twoSeats : Calls where
  disk := .ok (((∅ : CredentialsFile).insert "claude"
      { accessToken := "access-1", refreshToken := "refresh-1", expiresAtUnix := 0 }).insert
    "claude#b" { accessToken := "access-1", refreshToken := "refresh-1", expiresAtUnix := 0 })
  store := openOrDegraded (.ok (((∅ : CredentialsFile).insert "claude"
      { accessToken := "access-1", refreshToken := "refresh-1", expiresAtUnix := 0 }).insert
    "claude#b" { accessToken := "access-1", refreshToken := "refresh-1", expiresAtUnix := 0 }))

theorem twoSeats_idle : twoSeats.Idle := ⟨rfl, rfl, rfl, rfl, rfl⟩

/-- A forced refresh of the seat up to the answer of the endpoint. -/
def forcing (seat : String) (reply : Except OAuthError TokenRecord) : List CallStep :=
  [.forceRefreshSeat seat "anthropic" false, .lock 0, .reread seat 3000, .send seat 3000,
    .answer seat 3000 reply]

def writing (seat : String) (outcome : Io) : List CallStep :=
  [.beginCommit seat, .endCommit seat outcome]

/-- The answer of a provider that does not rotate. -/
def unrotated : TokenRecord :=
  { accessToken := "access-2", refreshToken := "refresh-1", expiresAtUnix := 3600 }

theorem refreshes_collapse_once :
    ∃ final, Calls.machine.run twoSeats (forcing "claude" (.ok renewal) ++ writing "claude" .done) =
        some final ∧
      presented "claude" "refresh-1" final.log ≤ 1 := by
  refine ⟨_, rfl, ?_⟩
  exact (@refreshes_collapse twoSeats _ (forcing "claude" (.ok renewal) ++ writing "claude" .done)
    twoSeats_idle rfl).1 "claude" "refresh-1"

/-- A token is presented twice with success where the endpoint gives it back, where a rotation
is not written and where two seats hold it; and a call waits for the commit of another seat. -/
theorem presented_again :
    (∃ final, Calls.machine.run twoSeats
        (forcing "claude" (.ok unrotated) ++ writing "claude" .done ++
          forcing "claude" (.ok renewal)) = some final ∧
      presented "claude" "refresh-1" final.log = 2) ∧
    (∃ final, Calls.machine.run twoSeats
        (forcing "claude" (.ok renewal) ++ writing "claude" (.refused "no space left") ++
          forcing "claude" (.ok renewal)) = some final ∧
      presented "claude" "refresh-1" final.log = 2) ∧
    (∃ final, Calls.machine.run twoSeats
        (forcing "claude" (.ok renewal) ++ forcing "claude#b" (.ok unrotated)) = some final ∧
      presented "claude" "refresh-1" final.log = 1 ∧
        presented "claude#b" "refresh-1" final.log = 1) ∧
    ∃ final, Calls.machine.run twoSeats
        (forcing "claude" (.ok renewal) ++
          [.forceRefreshSeat "claude#b" "anthropic" false, .lock 0, .beginCommit "claude"]) =
        some final ∧
      final.store.phase "claude#b" = some .locked ∧
        (final.step (.reread "claude#b" 3000)).isSome = false := by
  refine ⟨⟨_, rfl, ?_⟩, ⟨_, rfl, ?_⟩, ⟨_, rfl, ?_, ?_⟩, ⟨_, rfl, ?_, ?_⟩⟩
  all_goals rfl

end Runs
end Routectl.Oauth
