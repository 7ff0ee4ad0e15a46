import Routectl.Oauth.Rotation

/-! The refresh calls of one store, near expiry and forced, any number at once. A call waits
for the lock of its seat, and for the file's lock where it reads the cache or commits. -/
namespace Routectl.Oauth
open Library

/-- A call that has read its seat's record and waits for the lock of the seat. -/
structure Caller where
  seat : String
  provider : String
  current : TokenRecord
  force : Bool
  bypassCooldown : Bool
deriving DecidableEq

inductive CallEvent where
  | returned (seat : String) (result : Refreshed)
  | sent (seat presented : String) (now : Nat) (bypassCooldown : Bool)
  | failed (seat : String) (error : OAuthError) (now : Nat)
  | accepted (seat presented given : String)
  | written (seat : String)
  | unwritten (seat presented : String)

/-- One store with its calls: `writing` is the seat whose commit holds the file's lock, `log`
what has happened so far. -/
structure Calls where
  disk : Disk
  store : OAuthStore
  waiting : List Caller := []
  writing : Option String := none
  log : List CallEvent := []

inductive CallStep where
  | get (seat provider : String) (now : Nat)
  | forceRefreshSeat (seat provider : String) (bypassCooldown : Bool)
  | lock (turn : Nat)
  | reread (seat : String) (now : Nat)
  | send (seat : String) (now : Nat)
  | answer (seat : String) (now : Nat) (reply : Except OAuthError TokenRecord)
  | beginCommit (seat : String)
  | endCommit (seat : String) (outcome : Io)

namespace Calls
variable (calls : Calls)

def note (event : CallEvent) : Calls := { calls with log := calls.log ++ [event] }

/-- The end of a call without a request, or nothing more yet. -/
def noteResult (seat : String) : Option Refreshed → Calls
  | some result => calls.note (.returned seat result)
  | none => calls

/-- A token near its expiry is refreshed before it is handed out. -/
def get (seat provider : String) (now : Nat) : Calls :=
  match calls.store.readRecord seat with
  | .error error => calls.note (.returned seat (.error (.oauth error)))
  | .ok record =>
    if record.nearExpiry refreshLeadSecs now then
      { calls with
        waiting := calls.waiting ++
          [{ seat, provider, current := record, force := false, bypassCooldown := false }] }
    else calls.note (.returned seat (.ok record))

/-- A forced refresh takes what the cache holds when it is called for the dead token. -/
def forceRefreshSeat (seat provider : String) (bypassCooldown : Bool) : Calls :=
  match calls.store.readRecord seat with
  | .error error => calls.note (.returned seat (.error (.oauth error)))
  | .ok current =>
    { calls with
      waiting := calls.waiting ++ [{ seat, provider, current, force := true, bypassCooldown }] }

def lock (turn : Nat) : Option Calls :=
  match calls.waiting[turn]? with
  | some caller =>
    (calls.store.lockSeat caller.seat caller.provider caller.current caller.force
      caller.bypassCooldown).map fun store =>
        { calls with store, waiting := calls.waiting.eraseIdx turn }
  | none => none

def reread (seat : String) (now : Nat) (flight : Flight) : Calls :=
  let (store, result) := calls.store.reread seat now flight
  { calls with store }.noteResult seat result

def send (seat : String) (now : Nat) (flight : Flight) (record : TokenRecord) : Calls :=
  let (store, result) := calls.store.snapshot seat now flight record
  match result with
  | some _ => { calls with store }.noteResult seat result
  | none => { calls with store }.note (.sent seat record.refreshToken now flight.bypassCooldown)

def answer (seat : String) (now : Nat) (flight : Flight) (record : TokenRecord) (genBefore : Nat)
    (reply : Except OAuthError TokenRecord) : Calls :=
  let (store, _) := calls.store.answer seat now flight record genBefore reply
  match reply with
  | .error error => { calls with store }.note (.failed seat error now)
  | .ok renewed =>
    { calls with store }.note (.accepted seat record.refreshToken renewed.refreshToken)

def endCommit (seat : String) (outcome : Io) (record : TokenRecord) (genBefore : Nat)
    (renewed : TokenRecord) : Calls :=
  let (disk, store, result) := calls.store.commit seat calls.disk outcome genBefore renewed
  match result with
  | .ok _ => { calls with disk, store, writing := none }.note (.written seat)
  | .error _ =>
    { calls with disk, store, writing := none }.note (.unwritten seat record.refreshToken)

/-- The next step of a call. What reads or commits waits for the file's lock. -/
def step : CallStep → Option Calls
  | .get seat provider now =>
    if calls.writing = none then some (calls.get seat provider now) else none
  | .forceRefreshSeat seat provider bypassCooldown =>
    if calls.writing = none then some (calls.forceRefreshSeat seat provider bypassCooldown)
    else none
  | .lock turn => calls.lock turn
  | .reread seat now =>
    match calls.store.flights.lookup seat with
    | some flight =>
      match flight.phase with
      | .locked => if calls.writing = none then some (calls.reread seat now flight) else none
      | _ => none
    | none => none
  | .send seat now =>
    match calls.store.flights.lookup seat with
    | some flight =>
      match flight.phase with
      | .reread record => some (calls.send seat now flight record)
      | _ => none
    | none => none
  | .answer seat now reply =>
    match calls.store.flights.lookup seat with
    | some flight =>
      match flight.phase with
      | .posting record genBefore => some (calls.answer seat now flight record genBefore reply)
      | _ => none
    | none => none
  | .beginCommit seat =>
    match calls.store.phase seat with
    | some (.posted _ _ _) =>
      if calls.writing = none then some { calls with writing := some seat } else none
    | _ => none
  | .endCommit seat outcome =>
    match calls.store.phase seat with
    | some (.posted record genBefore renewed) =>
      if calls.writing = some seat then some (calls.endCommit seat outcome record genBefore renewed)
      else none
    | _ => none

def machine : Machine Calls CallStep where
  step := Calls.step

/-- No call is under way and no seat waits out a cooldown. -/
structure Idle (calls : Calls) : Prop where
  flights : calls.store.flights = ∅
  cooldowns : calls.store.refreshCooldowns = ∅
  waiting : calls.waiting = []
  writing : calls.writing = none
  log : calls.log = []

end Calls

section Stepping
variable {calls next : Calls} {seat : String} {now : Nat}

theorem step_get {provider : String} (stepped : calls.step (.get seat provider now) = some next) :
    calls.writing = none ∧ next = calls.get seat provider now := by
  rw [Calls.step] at stepped
  split at stepped
  case isTrue free =>
    cases stepped
    exact ⟨free, rfl⟩
  case isFalse => cases stepped

theorem step_forceRefreshSeat {provider : String} {bypassCooldown : Bool}
    (stepped : calls.step (.forceRefreshSeat seat provider bypassCooldown) = some next) :
    calls.writing = none ∧ next = calls.forceRefreshSeat seat provider bypassCooldown := by
  rw [Calls.step] at stepped
  split at stepped
  case isTrue free =>
    cases stepped
    exact ⟨free, rfl⟩
  case isFalse => cases stepped

theorem step_lock {turn : Nat} (stepped : calls.step (.lock turn) = some next) :
    ∃ caller store, calls.waiting[turn]? = some caller ∧
      calls.store.lockSeat caller.seat caller.provider caller.current caller.force
        caller.bypassCooldown = some store ∧
      next = { calls with store, waiting := calls.waiting.eraseIdx turn } := by
  rw [Calls.step, Calls.lock] at stepped
  split at stepped
  case h_1 caller there =>
    obtain ⟨store, locked, same⟩ := Option.map_eq_some_iff.mp stepped
    exact ⟨caller, store, there, locked, same.symm⟩
  case h_2 => cases stepped

theorem step_reread (stepped : calls.step (.reread seat now) = some next) :
    ∃ flight, calls.store.flights.lookup seat = some flight ∧ flight.phase = .locked ∧
      calls.writing = none ∧ next = calls.reread seat now flight := by
  rw [Calls.step] at stepped
  split at stepped
  case h_1 flight held =>
    split at stepped
    case h_1 locked =>
      split at stepped
      case isTrue free =>
        cases stepped
        exact ⟨flight, held, locked, free, rfl⟩
      case isFalse => cases stepped
    case h_2 => cases stepped
  case h_2 => cases stepped

theorem step_send (stepped : calls.step (.send seat now) = some next) :
    ∃ flight record, calls.store.flights.lookup seat = some flight ∧
      flight.phase = .reread record ∧ next = calls.send seat now flight record := by
  rw [Calls.step] at stepped
  split at stepped
  case h_1 flight held =>
    split at stepped
    case h_1 record reread =>
      cases stepped
      exact ⟨flight, record, held, reread, rfl⟩
    case h_2 => cases stepped
  case h_2 => cases stepped

theorem step_answer {reply : Except OAuthError TokenRecord}
    (stepped : calls.step (.answer seat now reply) = some next) :
    ∃ flight record genBefore, calls.store.flights.lookup seat = some flight ∧
      flight.phase = .posting record genBefore ∧
      next = calls.answer seat now flight record genBefore reply := by
  rw [Calls.step] at stepped
  split at stepped
  case h_1 flight held =>
    split at stepped
    case h_1 record genBefore posting =>
      cases stepped
      exact ⟨flight, record, genBefore, held, posting, rfl⟩
    case h_2 => cases stepped
  case h_2 => cases stepped

theorem step_beginCommit (stepped : calls.step (.beginCommit seat) = some next) :
    ∃ record genBefore renewed, calls.store.phase seat = some (.posted record genBefore renewed) ∧
      calls.writing = none ∧ next = { calls with writing := some seat } := by
  rw [Calls.step] at stepped
  split at stepped
  case h_1 record genBefore renewed posted =>
    split at stepped
    case isTrue free =>
      cases stepped
      exact ⟨record, genBefore, renewed, posted, free, rfl⟩
    case isFalse => cases stepped
  case h_2 => cases stepped

theorem step_endCommit {outcome : Io} (stepped : calls.step (.endCommit seat outcome) = some next) :
    ∃ record genBefore renewed, calls.store.phase seat = some (.posted record genBefore renewed) ∧
      calls.writing = some seat ∧
      next = calls.endCommit seat outcome record genBefore renewed := by
  rw [Calls.step] at stepped
  split at stepped
  case h_1 record genBefore renewed posted =>
    split at stepped
    case isTrue own =>
      cases stepped
      exact ⟨record, genBefore, renewed, posted, own, rfl⟩
    case isFalse => cases stepped
  case h_2 => cases stepped

end Stepping
end Routectl.Oauth
