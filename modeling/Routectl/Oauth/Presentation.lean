import Routectl.Oauth.Calls

/-! How often a refresh token is presented with success by the calls of one store, and what
each presentation is paid for by. -/
namespace Routectl.Oauth
open Library

/-- The tokens a seat has in the file and in the cache, and where its refresh stands. -/
structure SeatTokens where
  stored : Option String
  cached : Option String
  stage : Stage

namespace SeatTokens
variable (tokens : SeatTokens) (token : String)

def restage (stage : Stage) : SeatTokens := ⟨tokens.stored, tokens.cached, stage⟩

def kept : Bool := tokens.cached = some token || tokens.stored = some token

/-- The seat may still present this token. -/
def presentable : Bool :=
  match tokens.stage with
  | .free | .locked => tokens.kept token
  | .holding held => held = token || tokens.kept token
  | .granted held renewed => renewed = token || held ≠ token && tokens.kept token

end SeatTokens

def Calls.tokens (calls : Calls) (seat : String) : SeatTokens where
  stored := calls.disk.token seat
  cached := calls.store.token seat
  stage := .of (calls.store.phase seat)

section Counting
variable (seat token : String)

def presents : CallEvent → Bool
  | .accepted own presented _ => own = seat && presented = token
  | _ => false

def gives : CallEvent → Bool
  | .accepted own _ given => own = seat && given = token
  | _ => false

def loses : CallEvent → Bool
  | .unwritten own presented => own = seat && presented = token
  | _ => false

/-- How often the seat presented the token successfully. -/
def presented (log : List CallEvent) : Nat := log.countP (presents seat token)

/-- How often the endpoint gave the token for the seat. -/
def given (log : List CallEvent) : Nat := log.countP (gives seat token)

/-- How often a rotation of the token was not written. -/
def lost (log : List CallEvent) : Nat := log.countP (loses seat token)

/-- Between two states, a presentation is paid for by a token given, by a rotation lost or
by the seat having been able to present it. -/
def Charges (before after : Calls) : Prop :=
  presented seat token after.log + ((after.tokens seat).presentable token).toNat +
      (given seat token before.log + lost seat token before.log) ≤
    presented seat token before.log + ((before.tokens seat).presentable token).toNat +
      (given seat token after.log + lost seat token after.log)

end Counting

section Charging
variable {seat token own : String} {calls next : Calls} {event : CallEvent}

theorem Charges.refl (seat token : String) (calls : Calls) : Charges seat token calls calls := by
  rw [Charges]

theorem Charges.trans {first second third : Calls} (earlier : Charges seat token first second)
    (later : Charges seat token second third) : Charges seat token first third := by
  rw [Charges] at earlier later ⊢
  omega

theorem toNat_le_of_imp {first second : Bool} (implies : first = true → second = true) :
    first.toNat ≤ second.toNat := by
  cases first with
  | false => exact Nat.zero_le _
  | true =>
    rw [implies rfl]

/-- A step whose events say nothing of the seat's tokens, and after which the seat can
present no more than before. -/
theorem charges_of_quiet (events : List CallEvent) (log : next.log = calls.log ++ events)
    (quiet : ∀ event ∈ events, presents seat token event = false)
    (presentable : (next.tokens seat).presentable token = true →
      (calls.tokens seat).presentable token = true) : Charges seat token calls next := by
  have none : events.countP (presents seat token) = 0 := by
    rw [List.countP_eq_zero]
    intro event mem said
    rw [quiet event mem] at said
    cases said
  have less := toNat_le_of_imp presentable
  rw [Charges, log, presented, presented, given, given, lost, lost, List.countP_append,
    List.countP_append, List.countP_append, none]
  omega

@[simp] theorem tokens_note (calls : Calls) (event : CallEvent) (seat : String) :
    (calls.note event).tokens seat = calls.tokens seat := rfl

@[simp] theorem tokens_noteResult (calls : Calls) (result : Option Refreshed) (own seat : String) :
    (calls.noteResult own result).tokens seat = calls.tokens seat := by
  cases result <;> rfl

@[simp] theorem store_noteResult (calls : Calls) (result : Option Refreshed) (own : String) :
    (calls.noteResult own result).store = calls.store := by
  cases result <;> rfl

@[simp] theorem disk_noteResult (calls : Calls) (result : Option Refreshed) (own : String) :
    (calls.noteResult own result).disk = calls.disk := by
  cases result <;> rfl

theorem reread_eq (calls : Calls) (own : String) (now : Nat) (flight : Flight) :
    calls.reread own now flight =
      { calls with store := (calls.store.reread own now flight).1 }.noteResult own
        (calls.store.reread own now flight).2 := rfl

theorem noteResult_log (calls : Calls) (own : String) (result : Option Refreshed) :
    ∃ events, (calls.noteResult own result).log = calls.log ++ events ∧
      ∀ event ∈ events, presents seat token event = false := by
  cases result with
  | none => exact ⟨[], (List.append_nil _).symm, nofun⟩
  | some result =>
    refine ⟨[.returned own result], rfl, ?_⟩
    intro event mem
    rw [List.mem_singleton.mp mem]
    rfl

theorem presentable_of_free {tokens : SeatTokens}
    (ungranted : ∀ held renewed, tokens.stage ≠ .granted held renewed)
    (free : (tokens.restage .free).presentable token = true) :
    tokens.presentable token = true := by
  have kept : tokens.kept token = true := free
  rw [SeatTokens.presentable]
  cases stage : tokens.stage with
  | free => exact kept
  | locked => exact kept
  | holding held => simp [kept]
  | granted held renewed => exact absurd stage (ungranted held renewed)

theorem frames_tokens (frames : OAuthStore.Frames own calls.store next.store)
    (disk : next.disk = calls.disk) :
    (∀ other, other ≠ own → next.tokens other = calls.tokens other) ∧
      next.tokens own = (calls.tokens own).restage (.of (next.store.phase own)) := by
  constructor
  · intro other different
    rw [Calls.tokens, Calls.tokens, disk, OAuthStore.token, OAuthStore.token, frames.file,
      frames.phases other different]
  · rw [Calls.tokens, Calls.tokens, disk, OAuthStore.token, OAuthStore.token, frames.file]
    rfl

/-- A step of one seat's refresh that leaves the cache and the file alone. -/
theorem charges_of_frames (frames : OAuthStore.Frames own calls.store next.store)
    (disk : next.disk = calls.disk) (events : List CallEvent)
    (log : next.log = calls.log ++ events)
    (quiet : ∀ event ∈ events, presents seat token event = false)
    (stage : ((calls.tokens own).restage (.of (next.store.phase own))).presentable token = true →
      (calls.tokens own).presentable token = true) : Charges seat token calls next := by
  apply charges_of_quiet events log quiet
  intro presentable
  obtain ⟨others, restaged⟩ := frames_tokens frames disk
  by_cases mine : seat = own
  · subst mine
    rw [restaged] at presentable
    exact stage presentable
  · rw [others seat mine] at presentable
    exact presentable

theorem tokens_stage {flight : Flight} (held : calls.store.flights.lookup own = some flight) :
    (calls.tokens own).stage = .of (some flight.phase) := by
  rw [Calls.tokens, phase_of_flight held]

theorem reread_charges {flight : Flight} {now : Nat}
    (held : calls.store.flights.lookup own = some flight) (locked : flight.phase = .locked) :
    Charges seat token calls (calls.reread own now flight) := by
  obtain ⟨frames, stands⟩ := OAuthStore.reread_phase calls.store own now flight
  obtain ⟨events, log, quiet⟩ := @noteResult_log seat token
    { calls with store := (calls.store.reread own now flight).1 } own
    (calls.store.reread own now flight).2
  have stage := tokens_stage held
  rw [locked] at stage
  have ungranted : ∀ held renewed, (calls.tokens own).stage ≠ .granted held renewed := by
    intro held renewed same
    cases stage.symm.trans same
  have extended : (calls.reread own now flight).log = calls.log ++ events := log
  have store : (calls.reread own now flight).store = (calls.store.reread own now flight).1 := by
    rw [reread_eq, store_noteResult]
  have disk : (calls.reread own now flight).disk = calls.disk := by
    rw [reread_eq, disk_noteResult]
  rw [← store] at frames stands
  apply charges_of_frames frames disk events extended quiet
  rcases stands with ends | ⟨record, found, goes⟩
  · rw [ends]
    exact presentable_of_free ungranted
  · have cached : (calls.tokens own).cached = some record.refreshToken := by
      obtain ⟨-, there⟩ := OAuthStore.readRecord_ok found
      rw [Calls.tokens, OAuthStore.token, there]
      rfl
    have kept : (calls.tokens own).presentable token = (calls.tokens own).kept token := by
      rw [SeatTokens.presentable, stage]
      rfl
    rw [goes, kept, SeatTokens.presentable]
    intro held
    rcases (Bool.or_eq_true _ _).mp held with same | there
    · rw [SeatTokens.kept, cached, of_decide_eq_true same]
      simp
    · exact there

theorem send_charges {flight : Flight} {record : TokenRecord} {now : Nat}
    (held : calls.store.flights.lookup own = some flight) (reread : flight.phase = .reread record) :
    Charges seat token calls (calls.send own now flight record) := by
  obtain ⟨frames, stands⟩ := OAuthStore.snapshot_phase calls.store own now flight record
  have stage := tokens_stage held
  rw [reread] at stage
  have ungranted : ∀ held renewed, (calls.tokens own).stage ≠ .granted held renewed := by
    intro held renewed same
    cases stage.symm.trans same
  have sent : (calls.send own now flight record).store =
        (calls.store.snapshot own now flight record).1 ∧
      (calls.send own now flight record).disk = calls.disk ∧
      ∃ event, (calls.send own now flight record).log = calls.log ++ [event] ∧
        presents seat token event = false := by
    rw [Calls.send]
    generalize calls.store.snapshot own now flight record = outcome
    obtain ⟨store, result⟩ := outcome
    cases result with
    | none =>
      exact ⟨rfl, rfl, .sent own record.refreshToken now flight.bypassCooldown, rfl, rfl⟩
    | some result => exact ⟨rfl, rfl, .returned own result, rfl, rfl⟩
  obtain ⟨store, disk, event, log, quiet⟩ := sent
  rw [← store] at frames stands
  apply charges_of_frames frames disk [event] log
  · intro other mem
    rw [List.mem_singleton.mp mem]
    exact quiet
  · rcases stands with ends | goes
    · rw [ends]
      exact presentable_of_free ungranted
    · rw [goes, SeatTokens.presentable, SeatTokens.presentable, stage]
      exact id

theorem charges_of_unchanged (event : CallEvent) (quiet : presents seat token event = false) :
    Charges seat token calls (calls.note event) := by
  apply charges_of_quiet [event] rfl
  · intro other mem
    rw [List.mem_singleton.mp mem]
    exact quiet
  · exact id

theorem get_charges (calls : Calls) (own provider : String) (now : Nat) :
    Charges seat token calls (calls.get own provider now) := by
  rw [Calls.get]
  split
  case h_1 => exact charges_of_unchanged _ rfl
  case h_2 =>
    split
    case isTrue => exact .refl seat token _
    case isFalse => exact charges_of_unchanged _ rfl

theorem forceRefreshSeat_charges (calls : Calls) (own provider : String) (bypassCooldown : Bool) :
    Charges seat token calls (calls.forceRefreshSeat own provider bypassCooldown) := by
  rw [Calls.forceRefreshSeat]
  split
  case h_1 => exact charges_of_unchanged _ rfl
  case h_2 => exact .refl seat token _

theorem lock_charges {store : OAuthStore} {caller : Caller} {waiting : List Caller}
    (locks : calls.store.lockSeat caller.seat caller.provider caller.current caller.force
      caller.bypassCooldown = some store) :
    Charges seat token calls { calls with store, waiting } := by
  obtain ⟨frames, free, locked⟩ := OAuthStore.lockSeat_phase locks
  refine @charges_of_frames seat token caller.seat calls { calls with store, waiting } frames rfl []
    (List.append_nil _).symm nofun ?_
  have stage : (calls.tokens caller.seat).stage = .free := by
    rw [Calls.tokens, free]
    rfl
  simp only [locked]
  rw [SeatTokens.presentable, SeatTokens.presentable, stage]
  exact id

theorem answer_charges {flight : Flight} {record : TokenRecord} {genBefore now : Nat}
    {reply : Except OAuthError TokenRecord}
    (held : calls.store.flights.lookup own = some flight)
    (posting : flight.phase = .posting record genBefore) :
    Charges seat token calls (calls.answer own now flight record genBefore reply) := by
  have stage := tokens_stage held
  rw [posting] at stage
  cases reply with
  | error error =>
    obtain ⟨frames, ends⟩ :=
      OAuthStore.answer_refused calls.store own now flight record genBefore error
    have free : (calls.answer own now flight record genBefore (.error error)).store.phase own =
        none := ends
    refine @charges_of_frames seat token own calls _ frames rfl [.failed own error now] rfl ?_ ?_
    · intro event mem
      rw [List.mem_singleton.mp mem]
      rfl
    · rw [free]
      apply presentable_of_free
      intro held renewed same
      cases stage.symm.trans same
  | ok renewed =>
    obtain ⟨frames, goes⟩ :=
      OAuthStore.answer_accepted calls.store own now flight record genBefore renewed
    have frames : OAuthStore.Frames own calls.store
        (calls.answer own now flight record genBefore (.ok renewed)).store := frames
    obtain ⟨others, restaged⟩ := frames_tokens frames rfl
    by_cases mine : seat = own
    · subst mine
      have granted : (calls.answer seat now flight record genBefore (.ok renewed)).store.phase seat =
          some (.posted record genBefore
            { renewed with sessionId := renewed.sessionId.or record.sessionId }) := goes
      rw [granted] at restaged
      have log : (calls.answer seat now flight record genBefore (.ok renewed)).log =
          calls.log ++ [.accepted seat record.refreshToken renewed.refreshToken] := rfl
      have before : (calls.tokens seat).presentable token =
          (record.refreshToken = token || (calls.tokens seat).kept token) := by
        rw [SeatTokens.presentable, stage]
        rfl
      have after : ((calls.tokens seat).restage
          (.granted record.refreshToken renewed.refreshToken)).presentable token =
            (renewed.refreshToken = token ||
              record.refreshToken ≠ token && (calls.tokens seat).kept token) := rfl
      rw [Charges, log, restaged]
      simp only [Stage.of]
      rw [before, after, presented, presented, given, given, lost, lost, List.countP_append,
        List.countP_append, List.countP_append]
      by_cases own : record.refreshToken = token <;> by_cases new : renewed.refreshToken = token <;>
        cases (calls.tokens seat).kept token <;> simp [presents, gives, loses, own, new] <;> omega
    · have said : presents seat token (.accepted own record.refreshToken renewed.refreshToken) =
          false := by
        simp [presents, Ne.symm mine]
      apply charges_of_quiet [.accepted own record.refreshToken renewed.refreshToken] rfl
      · intro event mem
        rw [List.mem_singleton.mp mem]
        exact said
      · rw [others seat mine]
        exact id

theorem renew_token (seat : String) (renewed : TokenRecord) (file : CredentialsFile) :
    (OAuthStore.renew seat renewed file).directive = .write ∧
        (OAuthStore.renew seat renewed file).report = true ∧
        tokenOf ((OAuthStore.renew seat renewed file).file.lookup seat) =
          some renewed.refreshToken ∨
      (OAuthStore.renew seat renewed file).directive = .skip ∧
        (OAuthStore.renew seat renewed file).report = false ∧
        (OAuthStore.renew seat renewed file).file = file := by
  rw [OAuthStore.renew]
  split
  case h_1 =>
    refine .inl ⟨rfl, rfl, ?_⟩
    rw [AList.lookup_insert]
    rfl
  case h_2 => exact .inr ⟨rfl, rfl, rfl⟩

theorem commit_now (store : OAuthStore) (seat : String) (disk : Disk) (outcome : Io)
    (renewed : TokenRecord) :
    store.commit seat disk outcome store.reloadGen renewed =
      match (store.release seat).merge disk outcome (OAuthStore.renew seat renewed) with
      | (disk, merged, .error error) => (disk, merged, .error (.oauth error))
      | (disk, merged, .ok seatPresent) =>
        if seatPresent then (disk, merged.clearCooldown seat, .ok renewed)
        else (disk, merged, .error (.oauth (.notLoggedIn seat))) := by
  rw [OAuthStore.commit]
  exact if_neg (not_not_intro rfl)

/-- What the commit of a rotation may leave a seat. -/
structure Commits (seat : String) (store : OAuthStore) (disk : Disk) (renewed : TokenRecord)
    (committed : Disk × OAuthStore × Refreshed) : Prop where
  phase : committed.2.1.phase seat = none
  stored : committed.1.token seat = disk.token seat ∨
    committed.1.token seat = some renewed.refreshToken
  cached : committed.2.1.token seat = store.token seat ∨
    committed.2.1.token seat = disk.token seat ∨
    committed.2.1.token seat = some renewed.refreshToken
  written : ∀ record, committed.2.2 = .ok record →
    committed.1.token seat = some renewed.refreshToken ∧
      committed.2.1.token seat = some renewed.refreshToken

theorem commit_own (store : OAuthStore) (seat : String) (disk : Disk) (outcome : Io)
    (renewed : TokenRecord) :
    Commits seat store disk renewed (store.commit seat disk outcome store.reloadGen renewed) := by
  have released := OAuthStore.phase_release store seat
  have updated := updateUnderLock_disk disk outcome (OAuthStore.renew seat renewed)
  have stored : (updateUnderLock disk outcome (OAuthStore.renew seat renewed)).1.token seat =
        disk.token seat ∨
      (updateUnderLock disk outcome (OAuthStore.renew seat renewed)).1.token seat =
        some renewed.refreshToken := by
    rcases updated with same | ⟨fresh, loaded, writes, written⟩
    · exact .inl (by rw [same])
    · refine .inr ?_
      rw [written]
      rcases renew_token seat renewed fresh with ⟨-, -, renews⟩ | ⟨skips, -, -⟩
      · exact renews
      · cases writes.symm.trans skips
  rw [commit_now, OAuthStore.merge]
  cases degraded : (store.release seat).loadError with
  | some cause => exact ⟨released, .inl rfl, .inl rfl, by simp⟩
  | none =>
    simp only
    cases result : updateUnderLock disk outcome (OAuthStore.renew seat renewed) with
    | mk after outcome =>
      rw [result] at stored
      cases outcome with
      | error error => exact ⟨released, stored, .inl rfl, by simp⟩
      | ok success =>
        obtain ⟨merged, report⟩ := success
        obtain ⟨fresh, loaded, merges, reports, landed⟩ :=
          updateUnderLock_ok (congrArg Prod.snd result)
        rw [result] at landed
        simp only at landed stored ⊢
        subst merges reports
        rcases renew_token seat renewed fresh with ⟨writes, reported, renews⟩ | ⟨skips, reported, same⟩
        · rw [reported, if_pos rfl]
          have written : after = .ok (OAuthStore.renew seat renewed fresh).file := by
            rcases landed with ⟨skipped, -⟩ | written
            · cases writes.symm.trans skipped
            · exact written
          have token : after.token seat = some renewed.refreshToken := by
            rw [written]
            exact renews
          exact ⟨released, .inr token, .inr (.inr renews), fun _ _ => ⟨token, renews⟩⟩
        · rw [reported, if_neg Bool.false_ne_true]
          refine ⟨released, stored, .inr (.inl ?_), by simp⟩
          rw [loaded, OAuthStore.token, same]
          rfl

theorem presentable_mono {before after : SeatTokens} (stage : after.stage = before.stage)
    (kept : after.kept token = true → before.kept token = true)
    (presentable : after.presentable token = true) : before.presentable token = true := by
  rw [SeatTokens.presentable] at presentable ⊢
  rw [stage] at presentable
  cases standing : before.stage with
  | free | locked =>
    rw [standing] at presentable
    exact kept presentable
  | holding held =>
    simp only [standing, Bool.or_eq_true] at presentable ⊢
    exact presentable.imp_right kept
  | granted held renewed =>
    simp only [standing, Bool.or_eq_true, Bool.and_eq_true] at presentable ⊢
    exact presentable.imp_right fun ⟨other, there⟩ => ⟨other, kept there⟩

theorem kept_iff (calls : Calls) (seat token : String) :
    (calls.tokens seat).kept token = true ↔
      calls.store.token seat = some token ∨ calls.disk.token seat = some token := by
  rw [SeatTokens.kept, Bool.or_eq_true, decide_eq_true_eq, decide_eq_true_eq]
  rfl

theorem endCommit_eq (calls : Calls) (seat : String) (outcome : Io) (record : TokenRecord)
    (genBefore : Nat) (renewed : TokenRecord) :
    let committed := calls.store.commit seat calls.disk outcome genBefore renewed
    let ended := calls.endCommit seat outcome record genBefore renewed
    ended.disk = committed.1 ∧ ended.store = committed.2.1 ∧
      ((∃ result, committed.2.2 = .ok result) ∧ ended.log = calls.log ++ [.written seat] ∨
        (∃ error, committed.2.2 = .error error) ∧
          ended.log = calls.log ++ [.unwritten seat record.refreshToken]) := by
  rw [Calls.endCommit]
  generalize calls.store.commit seat calls.disk outcome genBefore renewed = committed
  obtain ⟨disk, store, result⟩ := committed
  cases result with
  | ok result => exact ⟨rfl, rfl, .inl ⟨⟨result, rfl⟩, rfl⟩⟩
  | error error => exact ⟨rfl, rfl, .inr ⟨⟨error, rfl⟩, rfl⟩⟩

/-- A rotation that is not written leaves the token it consumed, which is then paid for as
lost. -/
theorem charges_of_lost {record : TokenRecord}
    (log : next.log = calls.log ++ [.unwritten seat record.refreshToken])
    (others : (next.tokens seat).presentable token = true →
      (calls.tokens seat).presentable token = true ∨ record.refreshToken = token) :
    Charges seat token calls next := by
  have said : presents seat token (.unwritten seat record.refreshToken) = false := rfl
  by_cases same : record.refreshToken = token
  · have atMost := Bool.toNat_le ((next.tokens seat).presentable token)
    have counted : [CallEvent.unwritten seat record.refreshToken].countP (loses seat token) = 1 := by
      simp [loses, same]
    rw [Charges, log, presented, presented, given, given, lost, lost, List.countP_append,
      List.countP_append, List.countP_append, counted, List.countP_singleton, said,
      List.countP_singleton]
    simp only [Bool.false_eq_true, if_false]
    omega
  · apply charges_of_quiet [.unwritten seat record.refreshToken] log
    · intro other mem
      rw [List.mem_singleton.mp mem]
      exact said
    · intro presentable
      rcases others presentable with before | consumed
      · exact before
      · exact absurd consumed same

theorem endCommit_charges {outcome : Io} {record renewed : TokenRecord}
    (posted : calls.store.phase own = some (.posted record calls.store.reloadGen renewed)) :
    Charges seat token calls
      (calls.endCommit own outcome record calls.store.reloadGen renewed) := by
  obtain ⟨disk, store, told⟩ :=
    endCommit_eq calls own outcome record calls.store.reloadGen renewed
  generalize calls.endCommit own outcome record calls.store.reloadGen renewed = ended
    at disk store told ⊢
  by_cases mine : seat = own
  · subst mine
    have before : (calls.tokens seat).presentable token = true ↔
        renewed.refreshToken = token ∨
          record.refreshToken ≠ token ∧ (calls.tokens seat).kept token = true := by
      have stage : (calls.tokens seat).stage =
          .granted record.refreshToken renewed.refreshToken := by
        rw [Calls.tokens, posted]
        rfl
      rw [SeatTokens.presentable, stage]
      simp
    have commits := commit_own calls.store seat calls.disk outcome renewed
    have after : (ended.tokens seat).presentable token = true ↔
        ended.store.token seat = some token ∨ ended.disk.token seat = some token := by
      have stage : (ended.tokens seat).stage = .free := by
        rw [Calls.tokens, store, commits.phase]
        rfl
      rw [SeatTokens.presentable, stage]
      exact kept_iff ended seat token
    rcases told with ⟨⟨result, succeeded⟩, log⟩ | ⟨-, log⟩
    · obtain ⟨written, synced⟩ := commits.written result succeeded
      apply charges_of_quiet [.written seat] log
      · intro other mem
        rw [List.mem_singleton.mp mem]
        rfl
      · rw [after, before, disk, store, written, synced, or_self]
        intro same
        exact .inl (Option.some.inj same)
    · apply charges_of_lost log
      rw [after, before, kept_iff, disk, store]
      intro there
      by_cases consumed : record.refreshToken = token
      · exact .inr consumed
      · refine .inl ?_
        rcases there with cached | stored
        · rcases commits.cached with same | synced | new
          · exact .inr ⟨consumed, .inl (same.symm.trans cached)⟩
          · exact .inr ⟨consumed, .inr (synced.symm.trans cached)⟩
          · exact .inl (Option.some.inj (new.symm.trans cached))
        · rcases commits.stored with same | new
          · exact .inr ⟨consumed, .inr (same.symm.trans stored)⟩
          · exact .inl (Option.some.inj (new.symm.trans stored))
  · obtain ⟨stored, cached, -, phase⟩ := commit_others mine calls.store calls.disk outcome
      calls.store.reloadGen renewed
    have log : ∃ event, ended.log = calls.log ++ [event] ∧ presents seat token event = false := by
      rcases told with ⟨-, log⟩ | ⟨-, log⟩
      · exact ⟨_, log, rfl⟩
      · exact ⟨_, log, rfl⟩
    obtain ⟨event, log, unsaid⟩ := log
    apply charges_of_quiet [event] log
    · intro other mem
      rw [List.mem_singleton.mp mem]
      exact unsaid
    · apply presentable_mono
      · simp only [Calls.tokens, store, phase]
      · rw [kept_iff, kept_iff, store, disk, stored]
        rcases cached with same | synced
        · rw [same]
          exact id
        · rw [synced, or_self]
          exact .inr

end Charging
end Routectl.Oauth
