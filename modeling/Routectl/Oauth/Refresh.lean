import Mathlib.Data.List.Basic
import Routectl.Oauth.Store

/-! A refresh of one seat as the steps it takes: the lock of the seat, a second look at the
cache, a snapshot of the reload counter, the request, and the commit. -/
namespace Routectl.Oauth
open Library

def refreshLeadSecs : Nat := 300
def cooldownBaseSecs : Nat := 5
def cooldownCapSecs : Nat := 60

def u64Max : Nat := 2 ^ 64 - 1
def u32Max : Nat := 2 ^ 32 - 1

/-- `char::is_whitespace`. -/
def isWhitespace (char : Char) : Bool :=
  let code := char.toNat
  (9 ≤ code && code ≤ 13) || code = 32 || code = 133 || code = 160 || code = 5760 ||
    (8192 ≤ code && code ≤ 8202) || code = 8232 || code = 8233 || code = 8239 || code = 8287 ||
    code = 12288

/-- A number of 16 bits as `str::parse` reads it. -/
def parseU16 (text : List Char) : Option Nat :=
  let digits := if text.head? = some '+' then text.tail else text
  if digits ≠ [] ∧ digits.all Char.isDigit ∧ Nat.ofDigitChars 10 digits 0 < 2 ^ 16 then
    some (Nat.ofDigitChars 10 digits 0)
  else none

/-- The status a message begins with. -/
def leadingHttpStatus (message : String) : Option Nat :=
  let word := (message.toList.dropWhile isWhitespace).takeWhile fun char => !isWhitespace char
  (parseU16 word).filter fun status => 100 ≤ status && status ≤ 599

def isTransientRefreshError : OAuthError → Bool
  | .network _ => true
  | .tokenEndpoint message =>
    match leadingHttpStatus message with
    | some status => status = 429 || (500 ≤ status && status ≤ 599)
    | none => true
  | _ => false

inductive RefreshError where
  | oauth (error : OAuthError)
  | unavailable (provider : String) (remaining : Nat)
  | failed (provider : String) (error : OAuthError)
deriving Repr, DecidableEq

abbrev Refreshed := Except RefreshError TokenRecord

namespace OAuthStore
variable (store : OAuthStore) (seat : String)

/-- The lock of the seat is given back. -/
def release : OAuthStore := { store with flights := store.flights.erase seat }

def advance (flight : Flight) (phase : Phase) : OAuthStore :=
  { store with flights := store.flights.insert seat { flight with phase } }

/-- The seconds a seat has to wait, one more attempt counted as suppressed. -/
def cooldownRemaining (now : Nat) : OAuthStore × Option Nat :=
  match store.refreshCooldowns.lookup seat with
  | none => (store, none)
  | some cooldown =>
    if now < cooldown.nextAllowedUnix then
      ({ store with
          refreshCooldowns := store.refreshCooldowns.insert seat
            { cooldown with suppressed := min (cooldown.suppressed + 1) u64Max } },
        some (cooldown.nextAllowedUnix - now))
    else (store, none)

/-- The wait doubles with every failure, up to its cap. -/
def recordTransientFailure (now : Nat) : OAuthStore :=
  let cooldown := (store.refreshCooldowns.lookup seat).getD {}
  let consecutive := min (cooldown.consecutive + 1) u32Max
  let cooldownSecs :=
    if 5 ≤ consecutive then cooldownCapSecs else cooldownBaseSecs * 2 ^ (consecutive - 1)
  { store with
    refreshCooldowns := store.refreshCooldowns.insert seat
      { cooldown with consecutive, nextAllowedUnix := min (now + cooldownSecs) u64Max } }

/-- A refresh takes the lock of its seat where it is free. -/
def lockSeat (provider : String) (current : TokenRecord) (force bypassCooldown : Bool) :
    Option OAuthStore :=
  match store.flights.lookup seat with
  | none =>
    some { store with
      flights := store.flights.insert seat { provider, current, force, bypassCooldown } }
  | some _ => none

/-- The record in the cache, which another refresh may have renewed meanwhile. -/
def reread (now : Nat) (flight : Flight) : OAuthStore × Option Refreshed :=
  match store.readRecord seat with
  | .error error => (store.release seat, some (.error (.oauth error)))
  | .ok record =>
    let stillStale :=
      if flight.force then record.accessToken = flight.current.accessToken
      else record.nearExpiry refreshLeadSecs now = true
    if stillStale then (store.advance seat flight (.reread record), none)
    else (store.release seat, some (.ok record))

/-- The gate of the cooldown, and the generation the request is made under. -/
def snapshot (now : Nat) (flight : Flight) (record : TokenRecord) : OAuthStore × Option Refreshed :=
  let (gated, remaining) := if flight.bypassCooldown then (store, none)
    else store.cooldownRemaining seat now
  match remaining with
  | some remaining =>
    (gated.release seat, some (.error (.unavailable flight.provider remaining)))
  | none => (gated.advance seat flight (.posting record store.reloadGen), none)

/-- The answer to the request; a session id is kept over a rotation. -/
def answer (now : Nat) (flight : Flight) (record : TokenRecord) (genBefore : Nat)
    (reply : Except OAuthError TokenRecord) : OAuthStore × Option Refreshed :=
  match reply with
  | .error error =>
    let recorded := if isTransientRefreshError error then store.recordTransientFailure seat now
      else store
    (recorded.release seat, some (.error (.failed flight.provider error)))
  | .ok renewed =>
    (store.advance seat flight (.posted record genBefore
      { renewed with sessionId := renewed.sessionId.or record.sessionId }), none)

def renew (renewed : TokenRecord) (file : CredentialsFile) : Mutation Bool :=
  match file.lookup seat with
  | some _ => ⟨file.insert seat renewed, .write, true⟩
  | none => ⟨file, .skip, false⟩

/-- A rotation is dropped where a reload came between; else it is merged onto the file where
the seat is still there. -/
def commit (disk : Disk) (outcome : Io) (genBefore : Nat) (renewed : TokenRecord) :
    Disk × OAuthStore × Refreshed :=
  let released := store.release seat
  if store.reloadGen ≠ genBefore then
    (disk, released,
      match store.file.lookup seat with
      | some reloaded => .ok reloaded
      | none => .error (.oauth (.notLoggedIn seat)))
  else
    match released.merge disk outcome (renew seat renewed) with
    | (disk, merged, .error error) => (disk, merged, .error (.oauth error))
    | (disk, merged, .ok seatPresent) =>
      if seatPresent then (disk, merged.clearCooldown seat, .ok renewed)
      else (disk, merged, .error (.oauth (.notLoggedIn seat)))

end OAuthStore

namespace OAuthStore
variable {store : OAuthStore} {seat other provider : String} {now genBefore : Nat}
variable {flight : Flight} {record current : TokenRecord} {force bypassCooldown : Bool}

/-- Where the refresh of a seat stands, if one holds its lock. -/
def phase (store : OAuthStore) (seat : String) : Option Phase :=
  (store.flights.lookup seat).map fun flight => flight.phase

@[simp] theorem phase_release (store : OAuthStore) (seat : String) :
    (store.release seat).phase seat = none := by
  simp [phase, release]

@[simp] theorem phase_advance (store : OAuthStore) (seat : String) (flight : Flight)
    (phase : Phase) : (store.advance seat flight phase).phase seat = some phase := by
  simp [OAuthStore.phase, advance]

/-- A step of the refresh of one seat that leaves the cache and all other refreshes alone. -/
structure Frames (seat : String) (before after : OAuthStore) : Prop where
  file : after.file = before.file
  loadError : after.loadError = before.loadError
  phases : ∀ other, other ≠ seat → after.phase other = before.phase other

theorem Frames.refl (seat : String) (store : OAuthStore) : Frames seat store store :=
  ⟨rfl, rfl, fun _ _ => rfl⟩

theorem Frames.trans {first second third : OAuthStore} (earlier : Frames seat first second)
    (later : Frames seat second third) : Frames seat first third where
  file := later.file.trans earlier.file
  loadError := later.loadError.trans earlier.loadError
  phases := fun other different =>
    (later.phases other different).trans (earlier.phases other different)

theorem release_frames (store : OAuthStore) (seat : String) :
    Frames seat store (store.release seat) where
  file := rfl
  loadError := rfl
  phases := fun _ different => congrArg _ (AList.lookup_erase_ne different)

theorem advance_frames (store : OAuthStore) (seat : String) (flight : Flight) (phase : Phase) :
    Frames seat store (store.advance seat flight phase) where
  file := rfl
  loadError := rfl
  phases := fun _ different => congrArg _ (AList.lookup_insert_ne different)

theorem cooldownRemaining_frames (store : OAuthStore) (seat : String) (now : Nat) :
    Frames seat store (store.cooldownRemaining seat now).1 := by
  unfold cooldownRemaining
  split
  case h_1 => exact .refl seat store
  case h_2 =>
    split
    case isTrue => exact ⟨rfl, rfl, fun _ _ => rfl⟩
    case isFalse => exact .refl seat store

theorem lockSeat_phase {locked : OAuthStore}
    (taken : store.lockSeat seat provider current force bypassCooldown = some locked) :
    Frames seat store locked ∧ store.phase seat = none ∧ locked.phase seat = some .locked := by
  unfold lockSeat at taken
  split at taken
  case h_1 free =>
    obtain rfl := Option.some.inj taken
    refine ⟨⟨rfl, rfl, fun _ different => congrArg _ (AList.lookup_insert_ne different)⟩, ?_, ?_⟩
    · simp [phase, free]
    · simp [phase]
  case h_2 => cases taken

/-- A second look ends the refresh, or finds the record it goes on with. -/
theorem reread_phase (store : OAuthStore) (seat : String) (now : Nat) (flight : Flight) :
    Frames seat store (store.reread seat now flight).1 ∧
      ((store.reread seat now flight).1.phase seat = none ∨
        ∃ record, store.readRecord seat = .ok record ∧
          (store.reread seat now flight).1.phase seat = some (.reread record)) := by
  unfold reread
  split
  case h_1 => exact ⟨release_frames store seat, .inl (phase_release store seat)⟩
  case h_2 record found =>
    by_cases stillStale : if flight.force then record.accessToken = flight.current.accessToken
      else record.nearExpiry refreshLeadSecs now = true
    · rw [if_pos stillStale]
      exact ⟨advance_frames store seat flight _,
        .inr ⟨record, found, phase_advance store seat flight _⟩⟩
    · rw [if_neg stillStale]
      exact ⟨release_frames store seat, .inl (phase_release store seat)⟩

theorem readRecord_ok (found : store.readRecord seat = .ok record) :
    store.loadError = none ∧ store.file.lookup seat = some record := by
  unfold readRecord at found
  split at found
  case h_1 => cases found
  case h_2 live =>
    split at found
    case h_1 present =>
      cases found
      exact ⟨live, present⟩
    case h_2 => cases found

theorem snapshot_phase (store : OAuthStore) (seat : String) (now : Nat) (flight : Flight)
    (record : TokenRecord) :
    Frames seat store (store.snapshot seat now flight record).1 ∧
      ((store.snapshot seat now flight record).1.phase seat = none ∨
        (store.snapshot seat now flight record).1.phase seat =
          some (.posting record store.reloadGen)) := by
  have gated : Frames seat store
      (if flight.bypassCooldown then (store, none) else store.cooldownRemaining seat now).1 := by
    split
    case isTrue => exact .refl seat store
    case isFalse => exact cooldownRemaining_frames store seat now
  unfold snapshot
  generalize (if flight.bypassCooldown then (store, none)
    else store.cooldownRemaining seat now) = outcome at gated ⊢
  obtain ⟨passed, remaining⟩ := outcome
  cases remaining with
  | some seconds => exact ⟨gated.trans (release_frames passed seat), .inl (phase_release passed seat)⟩
  | none =>
    exact ⟨gated.trans (advance_frames passed seat flight _),
      .inr (phase_advance passed seat flight _)⟩

theorem answer_refused (store : OAuthStore) (seat : String) (now : Nat) (flight : Flight)
    (record : TokenRecord) (genBefore : Nat) (error : OAuthError) :
    Frames seat store (store.answer seat now flight record genBefore (.error error)).1 ∧
      (store.answer seat now flight record genBefore (.error error)).1.phase seat = none := by
  unfold answer
  dsimp only
  split
  case isTrue =>
    have recorded : Frames seat store (store.recordTransientFailure seat now) :=
      ⟨rfl, rfl, fun _ _ => rfl⟩
    exact ⟨recorded.trans (release_frames _ seat), phase_release _ seat⟩
  case isFalse => exact ⟨release_frames store seat, phase_release store seat⟩

theorem answer_accepted (store : OAuthStore) (seat : String) (now : Nat) (flight : Flight)
    (record : TokenRecord) (genBefore : Nat) (renewed : TokenRecord) :
    Frames seat store (store.answer seat now flight record genBefore (.ok renewed)).1 ∧
      (store.answer seat now flight record genBefore (.ok renewed)).1.phase seat =
        some (.posted record genBefore
          { renewed with sessionId := renewed.sessionId.or record.sessionId }) :=
  ⟨advance_frames store seat flight _, phase_advance store seat flight _⟩

end OAuthStore

theorem renew_ofSeat (seat : String) (renewed : TokenRecord) :
    OfSeat seat (OAuthStore.renew seat renewed) := by
  unfold OAuthStore.renew
  constructor
  case others =>
    intro file other different
    split
    · exact AList.lookup_insert_ne different
    · rfl
  case skips =>
    intro file skipped other
    cases found : file.lookup seat with
    | some record => simp [found] at skipped
    | none => rfl

end Routectl.Oauth
