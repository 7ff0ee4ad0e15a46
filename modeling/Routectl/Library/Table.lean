import Mathlib.Data.List.Perm.Basic

/-! Rows kept in an unordered vector: one row rewritten in place, or removed by
moving the last row into its place. -/
namespace Library.Table
universe u
variable {Row : Type u}

def swapRemove (rows : List Row) (index : Nat) : List Row :=
  match rows.getLast? with
  | none => rows
  | some last => (rows.set index last).dropLast

theorem swapRemove_perm {rows : List Row} {index : Nat} (inside : index < rows.length) :
    (swapRemove rows index).Perm (rows.eraseIdx index) := by
  rcases List.eq_nil_or_concat rows with rfl | ⟨init, last, rfl⟩
  · exact absurd inside (Nat.not_lt_zero index)
  · simp only [List.concat_eq_append] at inside ⊢
    rw [List.length_append, List.length_singleton] at inside
    simp only [swapRemove, List.getLast?_concat]
    rcases Nat.lt_or_ge index init.length with early | late
    · have moved : (init.set index last).Perm (last :: init.eraseIdx index) := by
        have place := List.getElem_cons_eraseIdx_perm
          (show index < (init.set index last).length by rw [List.length_set]; exact early)
        rw [List.getElem_set_self, List.eraseIdx_set_eq] at place
        exact place.symm
      rw [List.set_append_left _ _ early, List.dropLast_concat,
        List.eraseIdx_append_of_lt_length early]
      exact moved.trans (List.perm_append_singleton last _).symm
    · have final : index = init.length := by omega
      subst final
      rw [List.set_append_right _ _ (Nat.le_refl _), Nat.sub_self, List.set_cons_zero,
        List.dropLast_concat, List.eraseIdx_append_of_length_le (Nat.le_refl _), Nat.sub_self,
        List.eraseIdx_cons_zero, List.append_nil]

/-- One row against the others: rewriting it or removing it leaves these as they
are. -/
theorem split_at {rows : List Row} {index : Nat} {row : Row} (found : rows[index]? = some row) :
    ∃ rest, rows.Perm (row :: rest) ∧ (swapRemove rows index).Perm rest ∧
      ∀ change, (rows.set index change).Perm (change :: rest) := by
  obtain ⟨inside, same⟩ := List.getElem?_eq_some_iff.mp found
  refine ⟨rows.eraseIdx index, ?_, swapRemove_perm inside, ?_⟩
  · rw [← same]
    exact (List.getElem_cons_eraseIdx_perm inside).symm
  · intro change
    have place := List.getElem_cons_eraseIdx_perm
      (show index < (rows.set index change).length by rw [List.length_set]; exact inside)
    rw [List.getElem_set_self, List.eraseIdx_set_eq] at place
    exact place.symm

end Library.Table
