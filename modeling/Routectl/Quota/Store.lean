import Mathlib.Data.Finset.Insert
import Routectl.Library.KeyedMap
import Routectl.Quota.Window

/-! The per-seat store: each window merges on its own stamp and expires at merge
time and again at read time. -/
namespace Routectl.Quota
open Library

def maxObservationAge : Nat := 24 * 8 * 3600 * nanosPerSecond

/-- One window and the stamp of the observation it came from. -/
structure StoredWindow where
  window : QuotaWindow
  observed : ObservationStamp
deriving DecidableEq

namespace StoredWindow

def effective (stored : StoredWindow) (now : ObservationStamp) : QuotaWindow :=
  match stored.window with
  | .unknown => .unknown
  | .known _ resetAt =>
    if isFresh resetAt.at_ stored.observed now maxObservationAge then stored.window else .unknown

def merged (stored : StoredWindow) (incoming : QuotaWindow) (observed : ObservationStamp) :
    StoredWindow :=
  if observed.monotonic < stored.observed.monotonic then stored
  else
    match incoming with
    | .known .. => { window := incoming, observed }
    | .unknown =>
      match stored.effective observed with
      | .unknown => { window := .unknown, observed }
      | .known .. => stored

end StoredWindow

structure StoredReading where
  latest : ObservationStamp
  fast : StoredWindow
  slow : StoredWindow
  billing : Billing
  billingObserved : ObservationStamp
deriving DecidableEq

namespace StoredReading

def withinCeiling (observed now : ObservationStamp) : Bool :=
  if now.monotonic < observed.monotonic then false
  else now.monotonic - observed.monotonic ≤ maxObservationAge

def first (snapshot : QuotaSnapshot) : StoredReading :=
  { latest := snapshot.observed,
    fast := { window := snapshot.fast, observed := snapshot.observed },
    slow := { window := snapshot.slow, observed := snapshot.observed },
    billing := snapshot.billing,
    billingObserved := snapshot.observed }

def mergedBilling (stored : StoredReading) (observed : QuotaSnapshot) : Billing :=
  if observed.billing ≠ .unknown then
    if observed.observed.monotonic < stored.billingObserved.monotonic then stored.billing
    else observed.billing
  else if withinCeiling stored.billingObserved observed.observed then stored.billing
  else .unknown

def merged (stored : StoredReading) (observed : QuotaSnapshot) : StoredReading :=
  { latest :=
      if observed.observed.monotonic < stored.latest.monotonic then stored.latest
      else observed.observed,
    fast := stored.fast.merged observed.fast observed.observed,
    slow := stored.slow.merged observed.slow observed.observed,
    billing := stored.mergedBilling observed,
    billingObserved :=
      if observed.billing = .unknown ||
          observed.observed.monotonic < stored.billingObserved.monotonic then
        stored.billingObserved
      else observed.observed }

def asOf (stored : StoredReading) (now : ObservationStamp) : QuotaSnapshot :=
  { observed := stored.latest,
    fast := stored.fast.effective now,
    slow := stored.slow.effective now,
    billing := if withinCeiling stored.billingObserved now then stored.billing else .unknown }

def part (stored : StoredReading) : WindowRole → StoredWindow
  | .fast => stored.fast
  | .slow => stored.slow

@[simp] theorem part_first (snapshot : QuotaSnapshot) (role : WindowRole) :
    (first snapshot).part role = ⟨snapshot.window role, snapshot.observed⟩ := by
  cases role <;> rfl

@[simp] theorem part_merged (stored : StoredReading) (observed : QuotaSnapshot) (role : WindowRole) :
    (stored.merged observed).part role =
      (stored.part role).merged (observed.window role) observed.observed := by
  cases role <;> rfl

@[simp] theorem window_asOf (stored : StoredReading) (now : ObservationStamp) (role : WindowRole) :
    (stored.asOf now).window role = (stored.part role).effective now := by
  cases role <;> rfl

end StoredReading

structure SeatKey where
  key : String
deriving Repr, DecidableEq

structure QuotaStore where
  seats : KeyedMap SeatKey StoredReading
  admitted : Finset SeatKey
  refusedByAdmission : Nat

namespace QuotaStore

def empty : QuotaStore := { seats := ∅, admitted := ∅, refusedByAdmission := 0 }

/-- Declare the configured seats and drop the readings of every other one. -/
def admitSeats (store : QuotaStore) (seats : Finset SeatKey) : QuotaStore :=
  { store with admitted := seats, seats := KeyedMap.retain (fun key => key ∈ seats) store.seats }

def admits (store : QuotaStore) (key : SeatKey) : Bool := key ∈ store.admitted

/-- Also reports whether anything was stored. -/
def observe (store : QuotaStore) (key : SeatKey) (observed : QuotaSnapshot) : QuotaStore × Bool :=
  if !store.admits key then
    ({ store with refusedByAdmission := (store.refusedByAdmission + 1) % 2 ^ 64 }, false)
  else
    let merged :=
      match store.seats.lookup key with
      | some stored => stored.merged observed
      | none => .first observed
    ({ store with seats := store.seats.insert key merged }, true)

def readingFor (store : QuotaStore) (key : SeatKey) (now : ObservationStamp) :
    Option QuotaSnapshot :=
  (store.seats.lookup key).map fun stored => stored.asOf now

/-- Observations of one seat, in arrival order. -/
def observeAll (store : QuotaStore) (key : SeatKey) (arrivals : List QuotaSnapshot) : QuotaStore :=
  arrivals.foldl (fun current observed => (current.observe key observed).1) store

theorem observe_admits (store : QuotaStore) (key other : SeatKey) (observed : QuotaSnapshot) :
    (store.observe key observed).1.admits other = store.admits other := by
  unfold observe
  split <;> rfl

theorem observe_lookup {store : QuotaStore} {key : SeatKey} (admitted : store.admits key = true)
    (observed : QuotaSnapshot) :
    (store.observe key observed).1.seats.lookup key =
      some ((store.seats.lookup key).elim (.first observed) fun stored => stored.merged observed) := by
  cases found : store.seats.lookup key <;> simp [observe, admitted, found]

theorem observeAll_lookup {store : QuotaStore} {key : SeatKey} {stored : StoredReading}
    (admitted : store.admits key = true) (found : store.seats.lookup key = some stored)
    (arrivals : List QuotaSnapshot) :
    (store.observeAll key arrivals).seats.lookup key = some (arrivals.foldl .merged stored) := by
  induction arrivals generalizing store stored with
  | nil => exact found
  | cons observed rest ih =>
    have next := observe_lookup admitted observed
    rw [found] at next
    exact ih ((store.observe_admits key key observed).trans admitted) next

/-- A seat seen for the first time holds the fold of its observations. -/
theorem observeAll_first {store : QuotaStore} {key : SeatKey} (admitted : store.admits key = true)
    (unseen : store.seats.lookup key = none) (observed : QuotaSnapshot) (rest : List QuotaSnapshot) :
    (store.observeAll key (observed :: rest)).seats.lookup key =
      some (rest.foldl .merged (.first observed)) := by
  have next := observe_lookup admitted observed
  rw [unseen] at next
  exact observeAll_lookup ((store.observe_admits key key observed).trans admitted) next rest

end QuotaStore
end Routectl.Quota
