import Mathlib.Data.Finset.Basic
import Mathlib.Logic.Function.Basic

/-! Exclusive claims: a set of keys shared out among holders, no key to two of them. -/
namespace Library
universe u v
variable {Holder : Type u} {Key : Type v}

/-- The claimed keys are those that somebody holds, and each is held once. -/
structure Exclusive (claimed : Finset Key) (holds : Holder → List Key) : Prop where
  claimed_iff : ∀ key, key ∈ claimed ↔ ∃ holder, key ∈ holds holder
  apart : ∀ first second key, key ∈ holds first → key ∈ holds second → first = second
  once : ∀ holder, (holds holder).Nodup

namespace Exclusive
variable {claimed : Finset Key} {holds : Holder → List Key} {holder : Holder}
variable {key : Key} {rest : List Key}

theorem unclaimed : Exclusive (∅ : Finset Key) (fun _ : Holder => []) where
  claimed_iff key := by simp
  apart first second key here := by cases here
  once holder := List.nodup_nil

/-- Nothing is claimed once nobody holds anything. -/
theorem idle (exclusive : Exclusive claimed holds) (empty : ∀ holder, holds holder = []) :
    claimed = ∅ := by
  apply Finset.eq_empty_of_forall_notMem
  intro key member
  obtain ⟨holder, held⟩ := (exclusive.claimed_iff key).mp member
  rw [empty holder] at held
  cases held

theorem congr (exclusive : Exclusive claimed holds) {others : Holder → List Key}
    (same : ∀ holder, others holder = holds holder) : Exclusive claimed others := by
  obtain rfl : others = holds := funext same
  exact exclusive

variable [DecidableEq Holder] [DecidableEq Key]

/-- A free key may be claimed by anybody. -/
theorem claim (exclusive : Exclusive claimed holds) (free : key ∉ claimed) (holder : Holder) :
    Exclusive (insert key claimed) (Function.update holds holder (holds holder ++ [key])) := by
  have unheld : ∀ other, key ∉ holds other := by
    intro other held
    exact free ((exclusive.claimed_iff key).mpr ⟨other, held⟩)
  have member : ∀ other tried, tried ∈ Function.update holds holder (holds holder ++ [key]) other ↔
      tried ∈ holds other ∨ (other = holder ∧ tried = key) := by
    intro other tried
    by_cases own : other = holder
    · subst own
      simp
    · simp [own]
  constructor
  · intro tried
    simp only [member, Finset.mem_insert, exclusive.claimed_iff tried]
    constructor
    · intro claimed
      obtain rfl | ⟨other, held⟩ := claimed
      · exact ⟨holder, Or.inr ⟨rfl, rfl⟩⟩
      · exact ⟨other, Or.inl held⟩
    · intro claimed
      obtain ⟨other, held | ⟨-, rfl⟩⟩ := claimed
      · exact Or.inr ⟨other, held⟩
      · exact Or.inl rfl
  · intro first second tried here there
    obtain held | ⟨rfl, rfl⟩ := (member first tried).mp here
    · obtain also | ⟨rfl, rfl⟩ := (member second tried).mp there
      · exact exclusive.apart first second tried held also
      · exact absurd held (unheld first)
    · obtain also | ⟨rfl, -⟩ := (member second tried).mp there
      · exact absurd also (unheld second)
      · rfl
  · intro other
    by_cases own : other = holder
    · subst own
      rw [Function.update_self]
      apply List.Nodup.append (exclusive.once other) (List.nodup_singleton key)
      intro tried held alone
      obtain rfl := List.mem_singleton.mp alone
      exact unheld other held
    · rw [Function.update_of_ne own]
      exact exclusive.once other

/-- What its holder gives back is free. -/
theorem release (exclusive : Exclusive claimed holds) (held : holds holder = key :: rest) :
    Exclusive (claimed.erase key) (Function.update holds holder rest) := by
  have nodup := exclusive.once holder
  rw [held, List.nodup_cons] at nodup
  have own : key ∈ holds holder := held ▸ List.mem_cons_self
  have member : ∀ other tried, tried ∈ Function.update holds holder rest other ↔
      tried ∈ holds other ∧ tried ≠ key := by
    intro other tried
    by_cases same : other = holder
    · subst same
      rw [Function.update_self, held, List.mem_cons]
      constructor
      · intro later
        exact ⟨Or.inr later, fun equal => nodup.1 (equal ▸ later)⟩
      · intro kept
        obtain ⟨rfl | later, different⟩ := kept
        · exact absurd rfl different
        · exact later
    · rw [Function.update_of_ne same]
      constructor
      · intro elsewhere
        refine ⟨elsewhere, fun equal => same ?_⟩
        subst equal
        exact exclusive.apart other holder tried elsewhere own
      · exact And.left
  constructor
  · intro tried
    simp only [member, Finset.mem_erase, exclusive.claimed_iff tried]
    constructor
    · intro still
      obtain ⟨different, other, elsewhere⟩ := still
      exact ⟨other, elsewhere, different⟩
    · intro still
      obtain ⟨other, elsewhere, different⟩ := still
      exact ⟨different, other, elsewhere⟩
  · intro first second tried here there
    exact exclusive.apart first second tried ((member first tried).mp here).1
      ((member second tried).mp there).1
  · intro other
    by_cases same : other = holder
    · subst same
      rw [Function.update_self]
      exact nodup.2
    · rw [Function.update_of_ne same]
      exact exclusive.once other

end Exclusive
end Library
