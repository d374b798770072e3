import Mathlib.Data.List.Basic

/-!
# Decimal digits

The decimal digits of a number determine it. In front of a character that is no digit they
are the digits at the front of the text, so they can be told from what follows. They start
with a zero only for zero itself.
-/

set_option autoImplicit false

namespace GraphSelect

namespace Text

theorem isDigit_of_mem_toDigits {n : Nat} {c : Char} (member : c ∈ Nat.toDigits 10 n) :
    c.isDigit = true :=
  Nat.isDigit_of_mem_toDigits (by decide) (by decide) member

theorem repr_ofNat {n : Nat} : (Int.ofNat n).repr.toList = Nat.toDigits 10 n := Nat.toList_repr

theorem repr_negSucc {n : Nat} :
    (Int.negSucc n).repr.toList = '-' :: Nat.toDigits 10 (n + 1) := by
  rw [Int.repr, String.toList_append, Nat.toList_repr]
  rfl

/-- Different numbers have different digits. -/
theorem toDigits_injective : Function.Injective (Nat.toDigits 10) := by
  intro first second same
  calc first = Nat.ofDigitChars 10 (Nat.toDigits 10 first) 0 := Nat.ofDigitChars_ten_toDigits.symm
    _ = Nat.ofDigitChars 10 (Nat.toDigits 10 second) 0 := by rw [same]
    _ = second := Nat.ofDigitChars_ten_toDigits

theorem natRepr_injective : Function.Injective Nat.repr := by
  intro first second same
  have chars := congrArg String.toList same
  rw [Nat.toList_repr, Nat.toList_repr] at chars
  exact toDigits_injective chars

section Append

variable {n : Nat} {rest : List Char}

theorem takeWhile_toDigits (ends : ∀ c ∈ rest.head?, c.isDigit = false) :
    (Nat.toDigits 10 n ++ rest).takeWhile Char.isDigit = Nat.toDigits 10 n := by
  rw [List.takeWhile_append_of_pos fun c member => isDigit_of_mem_toDigits member]
  cases rest with
  | nil => rw [List.takeWhile_nil, List.append_nil]
  | cons c rest =>
      rw [List.takeWhile_cons_of_neg (by simp [ends c rfl]), List.append_nil]

theorem dropWhile_toDigits (ends : ∀ c ∈ rest.head?, c.isDigit = false) :
    (Nat.toDigits 10 n ++ rest).dropWhile Char.isDigit = rest := by
  rw [List.dropWhile_append_of_pos fun c member => isDigit_of_mem_toDigits member]
  cases rest with
  | nil => rfl
  | cons c rest => exact List.dropWhile_cons_of_neg (by simp [ends c rfl])

end Append

/-- Only zero starts with a zero. -/
theorem eq_zero_of_toDigits_eq_cons {n : Nat} {rest : List Char}
    (starts : Nat.toDigits 10 n = '0' :: rest) : n = 0 ∧ rest = [] := by
  induction n using Nat.strongRecOn generalizing rest with
  | ind n ih =>
      by_cases small : n < 10
      · rw [Nat.toDigits_of_lt_base small] at starts
        obtain ⟨digit, rfl⟩ := List.cons.inj starts
        exact ⟨Nat.digitChar_eq_zero.mp digit, rfl⟩
      · rw [Nat.toDigits_of_base_le (by decide) (by omega)] at starts
        cases front : Nat.toDigits 10 (n / 10) with
        | nil => exact absurd front Nat.toDigits_ne_nil
        | cons c others =>
            rw [front, List.cons_append] at starts
            obtain ⟨rfl, -⟩ := List.cons.inj starts
            have zero := (ih (n / 10) (by omega) front).1
            omega

end Text

end GraphSelect
