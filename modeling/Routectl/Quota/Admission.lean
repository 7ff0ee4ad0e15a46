import Routectl.Library.Transition
import Routectl.Quota.Store

/-! Admissions that run beside each other and beside observations: each swaps the admitted
seats under one lock and drops the others' readings under a second. -/
namespace Routectl.Quota
open Library

namespace QuotaStore
variable (store : QuotaStore)

/-- The first half of an admission. -/
def swapAdmitted (seats : Finset SeatKey) : QuotaStore := { store with admitted := seats }

/-- The second half: the caller keeps the seats it admitted. -/
def pruneSeats (seats : Finset SeatKey) : QuotaStore :=
  { store with seats := KeyedMap.retain (fun key => key ∈ seats) store.seats }

/-- Every seat with a reading is admitted. -/
def Confined : Prop := ∀ key, store.seats.lookup key ≠ none → store.admits key = true

end QuotaStore

/-- A store and the seats that each admission between its halves is to keep. -/
structure Admissions where
  store : QuotaStore := .empty
  between : List (Finset SeatKey) := []

inductive AdmissionStep where
  | swap (seats : Finset SeatKey)
  | prune (caller : Nat)
  | observe (key : SeatKey) (observed : QuotaSnapshot)

/-- Any step of any caller; a prune is of an admission that has swapped. -/
def Admissions.step (state : Admissions) : AdmissionStep → Option Admissions
  | .swap seats =>
    some { store := state.store.swapAdmitted seats, between := state.between ++ [seats] }
  | .prune caller =>
    state.between[caller]?.map fun seats =>
      { store := state.store.pruneSeats seats, between := state.between.eraseIdx caller }
  | .observe key observed => some { state with store := (state.store.observe key observed).1 }

def admissionMachine : Machine Admissions AdmissionStep := ⟨Admissions.step⟩

/-- Readings are confined unless the last admission has still to prune. -/
def Guarded (state : Admissions) : Prop :=
  state.store.admitted ∈ state.between ∨ state.store.Confined

section Steps
variable {store : QuotaStore}

theorem confined_observe (confined : store.Confined) (key : SeatKey) (observed : QuotaSnapshot) :
    (store.observe key observed).1.Confined := by
  intro other held
  rw [QuotaStore.observe_admits]
  cases admitted : store.admits key with
  | false =>
    have refused : (store.observe key observed).1.seats = store.seats := by
      simp [QuotaStore.observe, admitted]
    rw [refused] at held
    exact confined other held
  | true =>
    by_cases same : other = key
    · rw [same]
      exact admitted
    · have kept : (store.observe key observed).1.seats.lookup other = store.seats.lookup other := by
        simp [QuotaStore.observe, admitted, AList.lookup_insert_ne same]
      rw [kept] at held
      exact confined other held

theorem observe_admitted (key : SeatKey) (observed : QuotaSnapshot) :
    (store.observe key observed).1.admitted = store.admitted := by
  unfold QuotaStore.observe
  split <;> rfl

theorem held_of_prune {seats : Finset SeatKey} {key : SeatKey}
    (held : (store.pruneSeats seats).seats.lookup key ≠ none) :
    key ∈ seats ∧ store.seats.lookup key ≠ none := by
  rw [QuotaStore.pruneSeats, KeyedMap.lookup_retain] at held
  split at held
  case isTrue kept => exact ⟨of_decide_eq_true kept, held⟩
  case isFalse => exact absurd rfl held

/-- A prune of the admitted seats confines the readings to them. -/
theorem confined_prune_admitted : (store.pruneSeats store.admitted).Confined :=
  fun _ held => decide_eq_true (held_of_prune held).1

theorem confined_prune (confined : store.Confined) (seats : Finset SeatKey) :
    (store.pruneSeats seats).Confined :=
  fun key held => confined key (held_of_prune held).2

end Steps

theorem mem_eraseIdx_of_ne {Item : Type} {items : List Item} {item other : Item} {place : Nat}
    (member : item ∈ items) (there : items[place]? = some other) (different : item ≠ other) :
    item ∈ items.eraseIdx place := by
  obtain ⟨index, found⟩ := List.mem_iff_getElem?.mp member
  apply List.mem_eraseIdx_iff_getElem?.mpr
  refine ⟨index, ?_, found⟩
  rintro rfl
  rw [there] at found
  exact different (Option.some.inj found).symm

theorem preserves_guarded : admissionMachine.Preserves Guarded := by
  intro state action next guarded stepped
  cases action with
  | swap seats =>
    obtain rfl := Option.some.inj stepped
    exact .inl (List.mem_append_right _ (List.mem_singleton_self seats))
  | prune caller =>
    obtain ⟨seats, there, rfl⟩ := Option.map_eq_some_iff.mp stepped
    by_cases same : state.store.admitted = seats
    · right
      rw [← same]
      exact confined_prune_admitted
    · rcases guarded with pending | confined
      · exact .inl (mem_eraseIdx_of_ne pending there same)
      · exact .inr (confined_prune confined seats)
  | observe key observed =>
    obtain rfl := Option.some.inj stepped
    rcases guarded with pending | confined
    · left
      rw [observe_admitted]
      exact pending
    · exact .inr (confined_observe confined key observed)

/-- However admissions and observations interleave, a store with no admission between its
halves has readings of admitted seats alone. -/
theorem retired_seats_keep_nothing {actions : List AdmissionStep} {state : Admissions}
    (ran : admissionMachine.run {} actions = some state) (settled : state.between = []) :
    ∀ key, state.store.seats.lookup key ≠ none → state.store.admits key = true := by
  have started : Guarded {} := .inr fun _ held => absurd rfl held
  rcases preserves_guarded.run admissionMachine started ran with pending | confined
  · rw [settled] at pending
    cases pending
  · exact confined

def quietSnapshot : QuotaSnapshot :=
  { observed := ⟨0, 0⟩, fast := .unknown, slow := .unknown, billing := .unknown }

/-- Two admissions whose halves cross, with an observation of a seat that the second
retires before its prune. -/
def crossedAdmissions : List AdmissionStep :=
  [.swap {⟨"a"⟩}, .observe ⟨"a"⟩ quietSnapshot, .swap {⟨"b"⟩}, .observe ⟨"a"⟩ quietSnapshot,
    .observe ⟨"b"⟩ quietSnapshot, .prune 1, .prune 0]

theorem crossed_admissions_keep_nothing :
    ∃ state, admissionMachine.run {} crossedAdmissions = some state ∧ state.between = [] ∧
      ∀ key, state.store.seats.lookup key ≠ none → state.store.admits key = true := by
  refine ⟨_, rfl, rfl, ?_⟩
  exact @retired_seats_keep_nothing crossedAdmissions _ rfl rfl

end Routectl.Quota
