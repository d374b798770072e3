import GraphSelect.Json.Writer
import GraphSelect.Proofs.Number.Digits

/-!
# The characters of numbers

The text of a number has only digits, signs, points and exponent marks
(`JsonNumber.isNumeric_text`). None of them is a character with a meaning of its own in
the text of a value.
-/

set_option autoImplicit false

namespace GraphSelect

/-- The character can stand in the text of a number. -/
def Text.IsNumeric (c : Char) : Prop := c.isDigit = true ∨ c = '-' ∨ c = '.' ∨ c = 'e'

namespace Text

theorem IsNumeric.plain {c : Char} (numeric : IsNumeric c) : c ≠ '{' ∧ c ≠ '}' ∧ c ≠ '"' := by
  rcases numeric with digit | rfl | rfl | rfl
  · refine ⟨?_, ?_, ?_⟩ <;>
    · rintro rfl
      exact absurd digit (by decide)
  all_goals decide

theorem isNumeric_zero : IsNumeric '0' := .inl rfl

theorem isNumeric_minus : IsNumeric '-' := .inr (.inl rfl)

theorem isNumeric_point : IsNumeric '.' := .inr (.inr (.inl rfl))

theorem isNumeric_mark : IsNumeric 'e' := .inr (.inr (.inr rfl))

theorem isNumeric_toDigits (n : Nat) : ∀ c ∈ Nat.toDigits 10 n, IsNumeric c :=
  fun _ member => .inl (isDigit_of_mem_toDigits member)

theorem isNumeric_intRepr (n : Int) : ∀ c ∈ n.repr.toList, IsNumeric c := by
  cases n with
  | ofNat n =>
      rw [repr_ofNat]
      exact isNumeric_toDigits n
  | negSucc n =>
      rw [repr_negSucc, List.forall_mem_cons]
      exact ⟨isNumeric_minus, isNumeric_toDigits _⟩

end Text

open Text

theorem Decimal.isDigit_of_mem_significantDigits {decimal : Decimal} {c : Char}
    (member : c ∈ decimal.significantDigits) : c.isDigit = true := by
  rw [significantDigits, List.mem_reverse] at member
  exact isDigit_of_mem_toDigits (List.mem_reverse.mp ((List.dropWhile_sublist _).subset member))

theorem Decimal.isNumeric_significantDigits (decimal : Decimal) :
    ∀ c ∈ decimal.significantDigits, IsNumeric c :=
  fun _ member => .inl (isDigit_of_mem_significantDigits member)

theorem Decimal.isNumeric_text (range : PositionalRange) (decimal : Decimal) :
    ∀ c ∈ (decimal.text range).toList, IsNumeric c := by
  have digits := decimal.isNumeric_significantDigits
  have zeros : ∀ count, ∀ c ∈ List.replicate count '0', IsNumeric c := by
    intro count c member
    rw [List.eq_of_mem_replicate member]
    exact isNumeric_zero
  simp only [Decimal.text]
  split
  · split
    · rw [String.toList_ofList, List.forall_mem_append, List.forall_mem_append]
      exact ⟨⟨digits, zeros _⟩, by simp [isNumeric_point, isNumeric_zero]⟩
    · rw [String.toList_ofList, List.forall_mem_append, List.forall_mem_cons]
      exact ⟨fun c member => digits c (List.mem_of_mem_take member), isNumeric_point,
        fun c member => digits c (List.mem_of_mem_drop member)⟩
  · split
    · rw [String.toList_ofList, List.cons_append, List.cons_append, List.forall_mem_cons,
        List.forall_mem_cons, List.forall_mem_append]
      exact ⟨isNumeric_zero, isNumeric_point, zeros _, digits⟩
    · -- one digit before the point and an exponent behind the mark
      split
      · simp [isNumeric_zero]
      · next digit only =>
          rw [only] at digits
          rw [String.toList_append, String.toList_ofList, List.forall_mem_append]
          refine ⟨?_, isNumeric_intRepr _⟩
          simp [digits digit List.mem_cons_self, isNumeric_mark]
      · next first rest _ all =>
          rw [all, List.forall_mem_cons] at digits
          rw [String.toList_append, String.toList_ofList, List.forall_mem_append,
            List.forall_mem_append, List.forall_mem_cons, List.forall_mem_cons]
          exact ⟨⟨⟨digits.1, isNumeric_point, digits.2⟩, by simp [isNumeric_mark]⟩,
            isNumeric_intRepr _⟩

theorem Double.isNumeric_text (double : Double) : ∀ c ∈ double.text.toList, IsNumeric c := by
  rw [Double.text, String.toList_append, List.forall_mem_append]
  constructor
  · split
    · simp [isNumeric_minus]
    · simp
  · split
    · simp [isNumeric_zero, isNumeric_point]
    · exact Decimal.isNumeric_text _ _

/-- **The text of a number has only characters of numbers.** -/
theorem JsonNumber.isNumeric_text (number : JsonNumber) :
    ∀ c ∈ number.text.toList, IsNumeric c := by
  cases number with
  | integer number => exact isNumeric_intRepr _
  | double number => exact Double.isNumeric_text _

end GraphSelect
