import Mathlib.Data.List.Basic
import Mathlib.Data.List.Count

/-! A list cut at a separator: once, at its first place. Codes that are read back symbol by
symbol. -/
namespace Library

section Split
variable {Item : Type*} [DecidableEq Item]

/-- What stands before the first separator and what stands after it. -/
def splitOnce (separator : Item) : List Item → Option (List Item × List Item)
  | [] => none
  | first :: rest =>
    if first = separator then some ([], rest)
    else (splitOnce separator rest).map fun parts => (first :: parts.1, parts.2)

variable {separator : Item} {items left right : List Item}

theorem splitOnce_eq_some_iff :
    splitOnce separator items = some (left, right) ↔
      items = left ++ separator :: right ∧ separator ∉ left := by
  induction items generalizing left with
  | nil =>
    refine iff_of_false nofun ?_
    rintro ⟨absent, -⟩
    cases left <;> cases absent
  | cons first rest ih =>
    rw [splitOnce]
    split
    case isTrue same =>
      subst same
      constructor
      · intro found
        cases found
        exact ⟨rfl, List.not_mem_nil⟩
      · rintro ⟨cut, clear⟩
        cases left with
        | nil =>
          obtain ⟨-, rfl⟩ := List.cons.inj cut
          rfl
        | cons other left =>
          obtain ⟨rfl, -⟩ := List.cons.inj cut
          exact absurd (List.mem_cons_self ..) clear
    case isFalse other =>
      constructor
      · intro found
        obtain ⟨⟨before, after⟩, there, same⟩ := Option.map_eq_some_iff.mp found
        cases same
        obtain ⟨rfl, clear⟩ := ih.mp there
        exact ⟨rfl, fun member => (List.mem_cons.mp member).elim (other ∘ Eq.symm) clear⟩
      · rintro ⟨cut, clear⟩
        cases left with
        | nil =>
          obtain ⟨rfl, -⟩ := List.cons.inj cut
          exact absurd rfl other
        | cons head left =>
          obtain ⟨rfl, tail⟩ := List.cons.inj cut
          have later := ih.mpr ⟨tail, fun member => clear (List.mem_cons_of_mem _ member)⟩
          rw [later]
          rfl

theorem splitOnce_append (clear : separator ∉ left) (right : List Item) :
    splitOnce separator (left ++ separator :: right) = some (left, right) :=
  splitOnce_eq_some_iff.mpr ⟨rfl, clear⟩

/-- Two cuts at a separator that neither left part holds are one cut. -/
theorem split_unique {otherLeft otherRight : List Item}
    (same : left ++ separator :: right = otherLeft ++ separator :: otherRight)
    (clear : separator ∉ left) (otherClear : separator ∉ otherLeft) :
    left = otherLeft ∧ right = otherRight := by
  have found := splitOnce_append clear right
  rw [splitOnce_eq_some_iff.mpr ⟨same, otherClear⟩] at found
  cases found
  exact ⟨rfl, rfl⟩

end Split

section Code
variable {Source Symbol : Type*} {code : Source → List Symbol}

/-- A code of nonempty words, each settled by the text that begins with it, is unique. -/
theorem flatMap_injective (nonempty : ∀ item, code item ≠ [])
    (settled : ∀ item other rest more, code item ++ rest = code other ++ more → item = other)
    {first second : List Source} (same : first.flatMap code = second.flatMap code) :
    first = second := by
  induction first generalizing second with
  | nil =>
    cases second with
    | nil => rfl
    | cons item rest =>
      rw [List.flatMap_cons] at same
      exact absurd (List.append_eq_nil_iff.mp same.symm).1 (nonempty item)
  | cons item rest ih =>
    cases second with
    | nil =>
      rw [List.flatMap_cons] at same
      exact absurd (List.append_eq_nil_iff.mp same).1 (nonempty item)
    | cons other more =>
      rw [List.flatMap_cons, List.flatMap_cons] at same
      obtain rfl := settled item other _ _ same
      rw [ih (List.append_cancel_left same)]

end Code
end Library
