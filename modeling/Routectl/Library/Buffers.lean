import Mathlib.Data.List.Induction
import Mathlib.Data.List.Nodup

/-! A list of buffers filled by position: an item changes the buffer at its own place,
and the list grows to hold that place. -/
namespace Library
universe u v
variable {Item : Type u} {Slot : Type v}

/-- The buffers grow to hold a place. -/
def reaching (missing : Slot) (slots : List Slot) (place : Nat) : List Slot :=
  slots ++ List.replicate (place + 1 - slots.length) missing

def fillSlot (place : Item → Nat) (change : Item → Slot → Slot) (missing : Slot)
    (slots : List Slot) (item : Item) : List Slot :=
  (reaching missing slots (place item)).modify (place item) (change item)

theorem reaching_get (missing : Slot) (slots : List Slot) (place index : Nat) :
    (reaching missing slots place)[index]?.getD missing = slots[index]?.getD missing := by
  unfold reaching
  rcases Nat.lt_or_ge index slots.length with inside | outside
  · rw [List.getElem?_append_left inside]
  · rw [List.getElem?_append_right outside, List.getElem?_eq_none outside,
      List.getElem?_replicate]
    split <;> rfl

section Filling
variable (place : Item → Nat) (change : Item → Slot → Slot) (missing : Slot)

theorem fillSlot_get (slots : List Slot) (item : Item) (index : Nat) :
    (fillSlot place change missing slots item)[index]?.getD missing =
      if place item = index then change item (slots[index]?.getD missing)
      else slots[index]?.getD missing := by
  have grown := reaching_get missing slots (place item) index
  unfold fillSlot
  rw [List.getElem?_modify]
  split
  case isTrue own =>
    subst own
    have inside : place item < (reaching missing slots (place item)).length := by
      simp [reaching]
      omega
    rw [← grown, List.getElem?_eq_getElem inside]
    rfl
  case isFalse => simpa using grown

/-- What the items of a place make of its buffer. -/
def slotAt (items : List Item) (index : Nat) : Slot :=
  (items.filter fun item => place item = index).foldl (fun slot item => change item slot) missing

theorem slotAt_snoc (items : List Item) (item : Item) (index : Nat) :
    slotAt place change missing (items ++ [item]) index =
      if place item = index then change item (slotAt place change missing items index)
      else slotAt place change missing items index := by
  unfold slotAt
  rw [List.filter_append, List.foldl_append]
  split
  case isTrue own => simp [own]
  case isFalse other => simp [other]

theorem filled_get (items : List Item) (index : Nat) :
    (items.foldl (fillSlot place change missing) [])[index]?.getD missing =
      slotAt place change missing items index := by
  induction items using List.reverseRecOn with
  | nil => rfl
  | append_singleton items item ih =>
    rw [List.foldl_append, List.foldl_cons, List.foldl_nil, fillSlot_get, ih, slotAt_snoc]

theorem eq_map_range_getD (slots : List Slot) :
    slots = (List.range slots.length).map fun index => slots[index]?.getD missing := by
  apply List.ext_getElem
  · simp
  · intro index inside _
    simp [inside]

/-- The buffers that are kept are those of the places that pass, each once. -/
theorem filled_order (keep : Slot → Bool) (blank : keep missing = false) (items : List Item) :
    ∃ order : List Nat, order.Nodup ∧
      (items.foldl (fillSlot place change missing) []).filter keep =
        order.map (slotAt place change missing items) ∧
      ∀ index, index ∈ order ↔ keep (slotAt place change missing items index) = true := by
  have slots := eq_map_range_getD missing (items.foldl (fillSlot place change missing) [])
  have reads : (fun index => (items.foldl (fillSlot place change missing) [])[index]?.getD missing) =
      slotAt place change missing items := funext (filled_get place change missing items)
  rw [reads] at slots
  refine ⟨(List.range (items.foldl (fillSlot place change missing) []).length).filter
    fun index => keep (slotAt place change missing items index), List.nodup_range.filter _, ?_, ?_⟩
  · rw [slots, List.filter_map]
    simp [Function.comp_def]
  · intro index
    rw [List.mem_filter, List.mem_range, and_iff_right_iff_imp]
    intro kept
    by_contra outside
    have absent := filled_get place change missing items index
    rw [List.getElem?_eq_none (Nat.not_lt.mp outside), Option.getD_none] at absent
    rw [← absent, blank] at kept
    cases kept

end Filling
end Library
