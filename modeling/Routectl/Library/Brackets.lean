import Routectl.Library.KeyedMap
import Routectl.Library.Transition

/-! Bracketed streams: brackets opened under 0, 1, 2, … in that order, each touched only
while it is open and closed once, some kinds never two at a time. -/
namespace Library
universe u
variable {Kind : Type u}

inductive Mark (Kind : Type u) where
  | opened (index : Nat) (kind : Kind)
  | touched (index : Nat) (kind : Kind)
  | closed (index : Nat)
deriving Repr, DecidableEq

/-- How many brackets were opened, and those still open. -/
structure Brackets (Kind : Type u) where
  count : Nat
  live : KeyedMap Nat Kind

namespace Brackets

def initial : Brackets Kind := ⟨0, ∅⟩

/-- The open brackets are these, in some order. -/
structure Holds (brackets : Brackets Kind) (expected : List (Σ _ : Nat, Kind)) : Prop where
  live : brackets.live.entries.Perm expected
  bounded : ∀ held ∈ expected, held.1 < brackets.count

section Holding
variable {brackets : Brackets Kind} {expected : List (Σ _ : Nat, Kind)}

theorem initial_holds : (initial : Brackets Kind).Holds [] := ⟨.nil, by simp⟩

theorem Holds.perm (holds : brackets.Holds expected) {other : List (Σ _ : Nat, Kind)}
    (same : expected.Perm other) : brackets.Holds other :=
  ⟨holds.live.trans same, fun held member => holds.bounded held (same.mem_iff.mpr member)⟩

theorem Holds.lookup (holds : brackets.Holds expected) {index : Nat} {kind : Kind}
    (member : ⟨index, kind⟩ ∈ expected) : brackets.live.lookup index = some kind :=
  AList.mem_lookup_iff.mpr (holds.live.mem_iff.mpr member)

end Holding

variable [DecidableEq Kind] (alone : Kind → Bool)

def step (brackets : Brackets Kind) : Mark Kind → Option (Brackets Kind)
  | .opened index kind =>
    if index = brackets.count ∧
        (alone kind = true → ∀ held ∈ brackets.live.entries, alone held.2 = false) then
      some ⟨brackets.count + 1, brackets.live.insert index kind⟩
    else none
  | .touched index kind =>
    if brackets.live.lookup index = some kind then some brackets else none
  | .closed index =>
    if (brackets.live.lookup index).isSome then some ⟨brackets.count, brackets.live.erase index⟩
    else none

def machine : Machine (Brackets Kind) (Mark Kind) := ⟨step alone⟩

/-- Every bracket that was opened is closed again. -/
def Balanced (marks : List (Mark Kind)) : Prop :=
  ∃ final, (machine alone).run initial marks = some final ∧ final.live.entries = []

section Steps
variable {alone} {brackets : Brackets Kind} {expected : List (Σ _ : Nat, Kind)}

theorem Holds.opened (holds : brackets.Holds expected) (kind : Kind)
    (apart : alone kind = true → ∀ held ∈ expected, alone held.2 = false) :
    ∃ next, step alone brackets (.opened brackets.count kind) = some next ∧
      next.count = brackets.count + 1 ∧ next.Holds (⟨brackets.count, kind⟩ :: expected) := by
  have fresh : brackets.count ∉ brackets.live := by
    intro present
    obtain ⟨held, member, same⟩ := List.mem_map.mp (AList.mem_keys.mp present)
    have below := holds.bounded held (holds.live.mem_iff.mp member)
    omega
  refine ⟨⟨brackets.count + 1, brackets.live.insert brackets.count kind⟩, ?_, rfl, ?_, ?_⟩
  · apply if_pos
    exact ⟨rfl, fun single held member => apart single held (holds.live.mem_iff.mp member)⟩
  · rw [AList.entries_insert_of_notMem fresh]
    exact holds.live.cons _
  · intro held member
    rcases List.mem_cons.mp member with rfl | older
    · exact Nat.lt_succ_self _
    · exact Nat.lt_succ_of_lt (holds.bounded held older)

theorem Holds.touched (holds : brackets.Holds expected) {index : Nat} {kind : Kind}
    (member : ⟨index, kind⟩ ∈ expected) :
    step alone brackets (.touched index kind) = some brackets :=
  if_pos (holds.lookup member)

theorem Holds.closed {index : Nat} {kind : Kind} (holds : brackets.Holds (⟨index, kind⟩ :: expected)) :
    ∃ next, step alone brackets (.closed index) = some next ∧ next.count = brackets.count ∧
      next.Holds expected := by
  refine ⟨⟨brackets.count, brackets.live.erase index⟩, ?_, rfl, ?_, ?_⟩
  · have present := holds.lookup (List.mem_cons_self ..)
    simp [step, present]
  · have erased := List.Perm.kerase brackets.live.nodupKeys holds.live (a := index)
    have gone : List.kerase index (⟨index, kind⟩ :: expected) = expected :=
      List.kerase_cons_eq (s := (⟨index, kind⟩ : Σ _ : Nat, Kind)) rfl
    rwa [gone] at erased
  · intro held member
    exact holds.bounded held (List.mem_cons_of_mem _ member)

end Steps
end Brackets
end Library
