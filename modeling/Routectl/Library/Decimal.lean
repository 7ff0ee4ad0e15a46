import Mathlib.Data.List.Induction
import Mathlib.Tactic.IntervalCases

/-! Canonical decimals: the digit runs a number is printed as, and no others. -/
namespace Library.Decimal

structure Canonical (digits : List Char) : Prop where
  nonempty : digits ≠ []
  digit : ∀ character ∈ digits, character.isDigit = true
  unpadded : 1 < digits.length → digits.head? ≠ some '0'

theorem head_append {front : List Char} (nonempty : front ≠ []) (back : List Char) :
    (front ++ back).head? = front.head? := by
  cases front with
  | nil => exact absurd rfl nonempty
  | cons first rest => rfl

theorem isDigit_bounds {character : Char} (digit : character.isDigit = true) :
    48 ≤ character.toNat ∧ character.toNat ≤ 57 := by
  simp only [Char.isDigit, Bool.and_eq_true, decide_eq_true_eq] at digit
  exact ⟨digit.1, digit.2⟩

theorem toDigits_of_digit {character : Char} (digit : character.isDigit = true) :
    Nat.toDigits 10 (character.toNat - 48) = [character] := by
  obtain ⟨low, high⟩ := isDigit_bounds digit
  rw [Nat.toDigits_of_lt_base (by omega)]
  have same : Char.ofNat character.toNat = character := Char.ofNat_toNat character
  rw [← same]
  generalize character.toNat = code at low high
  interval_cases code <;> rfl

theorem ofDigitChars_snoc (front : List Char) (last : Char) :
    Nat.ofDigitChars 10 (front ++ [last]) 0 =
      10 * Nat.ofDigitChars 10 front 0 + (last.toNat - 48) := by
  rw [Nat.ofDigitChars_append, Nat.ofDigitChars_cons, Nat.ofDigitChars_nil]
  rfl

/-- A run that starts with another digit than zero is its own printing. -/
theorem toDigits_of_leading {digits : List Char} (nonempty : digits ≠ [])
    (digit : ∀ character ∈ digits, character.isDigit = true) (leads : digits.head? ≠ some '0') :
    0 < Nat.ofDigitChars 10 digits 0 ∧
      Nat.toDigits 10 (Nat.ofDigitChars 10 digits 0) = digits := by
  induction digits using List.reverseRecOn with
  | nil => exact absurd rfl nonempty
  | append_singleton front last ih =>
    have lastDigit : last.isDigit = true := digit last (by simp)
    obtain ⟨low, high⟩ := isDigit_bounds lastDigit
    rw [ofDigitChars_snoc]
    by_cases empty : front = []
    · subst empty
      have unpadded : last ≠ '0' := by simpa using leads
      have positive : last.toNat ≠ 48 := fun same => unpadded (by
        rw [← Char.ofNat_toNat last, same])
      rw [Nat.ofDigitChars_nil, Nat.mul_zero, Nat.zero_add, toDigits_of_digit lastDigit]
      exact ⟨by omega, rfl⟩
    · have leadsFront : front.head? ≠ some '0' := by
        rwa [head_append empty] at leads
      obtain ⟨positive, printed⟩ := ih empty (fun character member =>
        digit character (List.mem_append_left _ member)) leadsFront
      refine ⟨by omega, ?_⟩
      rw [← Nat.toDigits_append_toDigits (by decide) positive (by omega), printed,
        toDigits_of_digit lastDigit]

theorem toDigits_ofDigitChars {digits : List Char} (canonical : Canonical digits) :
    Nat.toDigits 10 (Nat.ofDigitChars 10 digits 0) = digits := by
  by_cases leads : digits.head? = some '0'
  · have short : digits.length ≤ 1 := Nat.not_lt.mp fun long => canonical.unpadded long leads
    obtain ⟨character, rfl⟩ := List.length_eq_one_iff.mp
      (Nat.le_antisymm short (List.length_pos_iff.mpr canonical.nonempty))
    obtain rfl : character = '0' := by simpa using leads
    rfl
  · exact (toDigits_of_leading canonical.nonempty canonical.digit leads).2

theorem toDigits_head {number : Nat} (positive : 0 < number) :
    (Nat.toDigits 10 number).head? ≠ some '0' := by
  induction number using Nat.strongRecOn with
  | ind number ih =>
    rcases Nat.lt_or_ge number 10 with small | large
    · rw [Nat.toDigits_of_lt_base small]
      interval_cases number <;> decide
    · rw [Nat.toDigits_of_base_le (by decide) large, head_append Nat.toDigits_ne_nil]
      exact ih (number / 10) (by omega) (by omega)

theorem canonical_toDigits (number : Nat) : Canonical (Nat.toDigits 10 number) where
  nonempty := Nat.toDigits_ne_nil
  digit := fun _ member => Nat.isDigit_of_mem_toDigits (by decide) (by decide) member
  unpadded := by
    intro long
    rcases Nat.eq_zero_or_pos number with rfl | positive
    · simp at long
    · exact toDigits_head positive

theorem toString_injective {first second : Nat} (same : toString first = toString second) :
    first = second := by
  have digits := congrArg String.toList same
  rw [Nat.toString_eq_repr, Nat.toString_eq_repr, Nat.toList_repr, Nat.toList_repr] at digits
  rw [← @Nat.ofDigitChars_ten_toDigits first, digits, Nat.ofDigitChars_ten_toDigits]

end Library.Decimal
