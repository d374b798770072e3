import GraphSelect.Json.Lexeme
import GraphSelect.Proofs.Number.Digits
import GraphSelect.Proofs.Text.Literals

/-!
# Scalars come back from their text

A string is quoted character by character. Reading a quoted character takes just what
quoting has written for it, whatever follows (`Cursor.escaped_cases`), so no character of a
string ends its literal and the quote behind the string does (`Cursor.string_quoted`).

An integer is written in decimal digits. Its text ends in front of a character that does
not go on with a number (`Cursor.EndsNumber`), and there the number is read back
(`Cursor.numberLexeme_integer`). Its first character starts a number and nothing else
(`Cursor.StartsNumber`).
-/

set_option autoImplicit false

namespace GraphSelect

open Text

namespace Cursor

/-! ## Strings -/

theorem hexValue?_hexDigit {digit : Nat} (small : digit < 16) :
    hexValue? (hexDigit digit) = some digit := by
  have all : ∀ digit < 16, hexValue? (hexDigit digit) = some digit := by decide
  exact all digit small

/-- The four digits that stand for a control character. -/
theorem codeEscape_control {c : Char} (control : c.toNat < 0x20) (offset : Nat)
    (rest : List Char) :
    codeEscape ⟨offset, '0' :: '0' :: hexDigit (c.toNat / 16) :: hexDigit (c.toNat % 16) :: rest⟩ =
      .ok (c, ⟨offset + 4, rest⟩) := by
  have zero : hexValue? '0' = some 0 := rfl
  have number : hexNumber? '0' '0' (hexDigit (c.toNat / 16)) (hexDigit (c.toNat % 16)) =
      some c.toNat := by
    have high := hexValue?_hexDigit (show c.toNat / 16 < 16 by omega)
    have low := hexValue?_hexDigit (show c.toNat % 16 < 16 by omega)
    rw [hexNumber?, zero, high, low]
    exact congrArg some (show (0 * 16 + 0) * 256 + c.toNat / 16 * 16 + c.toNat % 16 = c.toNat by
      omega)
  have notLow : isLowSurrogate c.toNat = false := by
    simp only [isLowSurrogate, Bool.and_eq_false_iff, decide_eq_false_iff_not]
    omega
  have notHigh : isHighSurrogate c.toNat = false := by
    simp only [isHighSurrogate, Bool.and_eq_false_iff, decide_eq_false_iff_not]
    omega
  simp [codeEscape, hex, number, bind, Except.bind, notLow, notHigh, Char.ofNat_toNat, pure,
    Except.pure]

/-- An escaped character is either itself or a backslash and what reading it back takes. -/
theorem escaped_cases (c : Char) :
    (escaped c = [c] ∧ c ≠ '"' ∧ c ≠ '\\' ∧ ¬c.toNat < 0x20) ∨
      ∃ tail, escaped c = '\\' :: tail ∧ ∀ offset rest, ∃ stop,
        escape ⟨offset, tail ++ rest⟩ = .ok (c, ⟨stop, rest⟩) := by
  unfold escaped
  split_ifs with quote backslash backspace formFeed newline return_ tab control
  iterate 7
    · subst c
      exact .inr ⟨_, rfl, fun offset _ => ⟨offset + 1, rfl⟩⟩
  · exact .inr ⟨_, rfl, fun offset rest => ⟨_, codeEscape_control control (offset + 1) rest⟩⟩
  · exact .inl ⟨rfl, quote, backslash, control⟩

section String

variable {offset stop : Nat} {c : Char} {chars rest after : List Char} {next : Cursor}

theorem string_quote : string ⟨offset, '"' :: rest⟩ = .ok ([], ⟨offset + 1, rest⟩) := by
  rw [string]
  rfl

theorem string_plain (notQuote : c ≠ '"') (notBackslash : c ≠ '\\') (notControl : ¬c.toNat < 0x20)
    (others : string ⟨offset + c.utf8Size, rest⟩ = .ok (chars, ⟨stop, after⟩)) :
    string ⟨offset, c :: rest⟩ = .ok (c :: chars, ⟨stop, after⟩) := by
  rw [string]
  split
  · next none => cases none
  · next quote =>
      cases quote
      exact absurd rfl notQuote
  · next backslash =>
      cases backslash
      exact absurd rfl notBackslash
  · next whole =>
      cases whole
      rw [if_neg notControl, others]

theorem string_backslash (first : escape ⟨offset + 1, rest⟩ = .ok (c, next))
    (others : next.string = .ok (chars, ⟨stop, after⟩)) :
    string ⟨offset, '\\' :: rest⟩ = .ok (c :: chars, ⟨stop, after⟩) := by
  rw [string]
  split
  · next none => cases none
  · next quote => cases quote
  · next backslash =>
      cases backslash
      split
      · next failed =>
          rw [first] at failed
          cases failed
      · next found =>
          rw [first] at found
          cases found
          rw [others]
  · next notBackslash whole =>
      cases whole
      exact absurd rfl notBackslash

/-- **A quoted text is read back** from behind its opening quote. -/
theorem string_quoted (chars rest : List Char) (offset : Nat) :
    ∃ stop, string ⟨offset, chars.flatMap escaped ++ '"' :: rest⟩ = .ok (chars, ⟨stop, rest⟩) := by
  induction chars generalizing offset with
  | nil => exact ⟨offset + 1, string_quote⟩
  | cons c chars ih =>
      rw [List.flatMap_cons, List.append_assoc]
      rcases escaped_cases c with ⟨same, notQuote, notBackslash, notControl⟩ | ⟨tail, same, escapes⟩
      · obtain ⟨stop, others⟩ := ih (offset + c.utf8Size)
        rw [same]
        exact ⟨stop, string_plain notQuote notBackslash notControl others⟩
      · obtain ⟨next, first⟩ := escapes (offset + 1) (chars.flatMap escaped ++ '"' :: rest)
        obtain ⟨stop, others⟩ := ih next
        rw [same]
        exact ⟨stop, string_backslash first others⟩

end String

theorem stringLexeme_quoted (text : String) (rest : List Char) (offset : Nat) :
    ∃ stop, stringLexeme ⟨offset, text.toList.flatMap escaped ++ '"' :: rest⟩ =
      .good text ⟨stop, rest⟩ := by
  obtain ⟨stop, read⟩ := string_quoted text.toList rest offset
  refine ⟨stop, ?_⟩
  rw [stringLexeme, read]
  exact congrArg (Lexeme.good · _) String.ofList_toList

/-! ## Integers -/

/-- The text does not go on with a number that ends in front of it. -/
structure EndsNumber (rest : List Char) : Prop where
  digit : ∀ c ∈ rest.head?, c.isDigit = false
  point : ∀ c ∈ rest.head?, c ≠ '.'
  exponent : ∀ c ∈ rest.head?, c ≠ 'e' ∧ c ≠ 'E'

theorem ofDigits_toDigits (n : Nat) :
    Numeral.ofDigits ((Nat.toDigits 10 n).map digitValue) = n := by
  have step : ∀ (value : Nat) (chars : List Char),
      (chars.map digitValue).foldl (fun value digit => value * 10 + digit) value =
        Nat.ofDigitChars 10 chars value := by
    intro value chars
    rw [Nat.ofDigitChars_eq_foldl, List.foldl_map]
    simp only [digitValue, Nat.mul_comm]
  rw [Numeral.ofDigits, step, Nat.ofDigitChars_ten_toDigits]

section Number

variable {n : Nat} {rest : List Char}

theorem digits_toDigits (ends : EndsNumber rest) (offset : Nat) :
    digits ⟨offset, Nat.toDigits 10 n ++ rest⟩ =
      ((Nat.toDigits 10 n).map digitValue, ⟨offset + (Nat.toDigits 10 n).length, rest⟩) := by
  rw [digits]
  simp only [takeWhile_toDigits ends.digit, dropWhile_toDigits ends.digit]

theorem wholeDigits_toDigits (ends : EndsNumber rest) (offset : Nat) :
    wholeDigits ⟨offset, Nat.toDigits 10 n ++ rest⟩ =
      .ok ((Nat.toDigits 10 n).map digitValue,
        ⟨offset + (Nat.toDigits 10 n).length, rest⟩) := by
  have found := digits_toDigits (n := n) ends offset
  cases all : Nat.toDigits 10 n with
  | nil => exact absurd all Nat.toDigits_ne_nil
  | cons first others =>
      rw [all] at found
      by_cases zero : first = '0'
      · subst zero
        obtain ⟨-, rfl⟩ := eq_zero_of_toDigits_eq_cons all
        cases rest with
        | nil => rfl
        | cons c rest =>
            have notDigit : c.isDigit = false := ends.digit c rfl
            simp [wholeDigits, notDigit, digitValue]
      · rw [wholeDigits]
        split
        · next same => exact absurd (List.cons.inj same).1 zero
        · rw [someDigits, found]
          rfl

theorem numeral_of_sign {cursor : Cursor} {negative : Bool} {offset : Nat}
    (signed : cursor.sign = (negative, ⟨offset, Nat.toDigits 10 n ++ rest⟩))
    (ends : EndsNumber rest) :
    cursor.numeral = .ok (⟨negative, (Nat.toDigits 10 n).map digitValue, none, none⟩,
      ⟨offset + (Nat.toDigits 10 n).length, rest⟩) := by
  have noFraction : ∀ offset, fraction ⟨offset, rest⟩ = .ok (none, ⟨offset, rest⟩) := by
    intro offset
    rw [fraction]
    split
    · next same =>
        subst same
        exact absurd rfl (ends.point '.' rfl)
    · rfl
  have noExponent : ∀ offset, exponent ⟨offset, rest⟩ = .ok (none, ⟨offset, rest⟩) := by
    intro offset
    rw [exponent]
    split
    · next c others same =>
        subst same
        have other := ends.exponent c rfl
        rw [if_neg (not_or.mpr other)]
    · rfl
  rw [numeral, signed]
  simp only [wholeDigits_toDigits ends, noFraction, noExponent, bind, Except.bind, pure,
    Except.pure]

/-- A number without a sign starts with a digit. -/
theorem sign_toDigits (offset : Nat) :
    sign ⟨offset, Nat.toDigits 10 n ++ rest⟩ = (false, ⟨offset, Nat.toDigits 10 n ++ rest⟩) := by
  cases all : Nat.toDigits 10 n with
  | nil => exact absurd all Nat.toDigits_ne_nil
  | cons first others =>
      have digit : first.isDigit = true :=
        isDigit_of_mem_toDigits (n := n) (all ▸ List.mem_cons_self)
      rw [sign]
      split
      · next same =>
          obtain ⟨rfl, -⟩ := List.cons.inj same
          cases digit
      · rfl

/-- What a numeral without fraction and exponent is worth. -/
theorem integer?_toDigits (negative : Bool) (n : Nat) (nonzero : negative = true → n ≠ 0) :
    Numeral.integer? ⟨negative, (Nat.toDigits 10 n).map digitValue, none, none⟩ =
      Integer.ofInt? (if negative then -(n : Int) else n) := by
  simp only [Numeral.integer?, ofDigits_toDigits]
  cases negative with
  | false => simp
  | true => simp [nonzero rfl]

theorem numberLexeme_of_sign {cursor : Cursor} {negative : Bool} {offset : Nat}
    {number : Integer}
    (signed : cursor.sign = (negative, ⟨offset, Nat.toDigits 10 n ++ rest⟩))
    (ends : EndsNumber rest) (nonzero : negative = true → n ≠ 0)
    (worth : number.value = if negative then -(n : Int) else n) :
    ∃ stop, cursor.numberLexeme = .good (.integer number) ⟨stop, rest⟩ := by
  have fits : Integer.ofInt? (if negative then -(n : Int) else n) = some number := by
    rw [← worth, Integer.ofInt?, dif_pos ⟨number.lower, number.upper⟩]
  refine ⟨offset + (Nat.toDigits 10 n).length, ?_⟩
  rw [numberLexeme, numeral_of_sign signed ends]
  simp only [Numeral.value, integer?_toDigits negative n nonzero, fits]

/-- **The text of an integer is read back** in front of a character that does not go on with
the number. -/
theorem numberLexeme_integer (number : Integer) (ends : EndsNumber rest) (offset : Nat) :
    ∃ stop, numberLexeme ⟨offset, number.value.repr.toList ++ rest⟩ =
      .good (.integer number) ⟨stop, rest⟩ := by
  cases sort : number.value with
  | ofNat n =>
      rw [repr_ofNat]
      exact numberLexeme_of_sign (sign_toDigits offset) ends nofun sort
  | negSucc n =>
      have signed : sign ⟨offset, '-' :: Nat.toDigits 10 (n + 1) ++ rest⟩ =
          (true, ⟨offset + 1, Nat.toDigits 10 (n + 1) ++ rest⟩) := rfl
      rw [repr_negSucc]
      exact numberLexeme_of_sign signed ends (fun _ => Nat.succ_ne_zero n) sort

/-- The character starts a number. -/
def StartsNumber (c : Char) : Prop := c = '-' ∨ c.isDigit = true

theorem exists_repr_eq_cons (value : Int) :
    ∃ first others, value.repr.toList = first :: others ∧ StartsNumber first := by
  cases value with
  | ofNat n =>
      rw [repr_ofNat]
      cases all : Nat.toDigits 10 n with
      | nil => exact absurd all Nat.toDigits_ne_nil
      | cons first others =>
          have digit : first.isDigit = true :=
            isDigit_of_mem_toDigits (n := n) (all ▸ List.mem_cons_self)
          exact ⟨first, others, rfl, .inr digit⟩
  | negSucc n => exact ⟨'-', Nat.toDigits 10 (n + 1), repr_negSucc, .inl rfl⟩

theorem StartsNumber.ne {first c : Char} (starts : StartsNumber first)
    (other : c ≠ '-' ∧ c.isDigit = false) : first ≠ c := by
  rintro rfl
  rcases starts with rfl | digit
  · exact other.1 rfl
  · rw [other.2] at digit
    cases digit

theorem StartsNumber.notBlank {first : Char} (starts : StartsNumber first) :
    Cursor.isBlank first = false := by
  have space : first ≠ ' ' := starts.ne (by decide)
  have tab : first ≠ '\t' := starts.ne (by decide)
  have newline : first ≠ '\n' := starts.ne (by decide)
  have return_ : first ≠ '\r' := starts.ne (by decide)
  simp [Cursor.isBlank, space, tab, newline, return_]

theorem StartsNumber.scalarLexeme_eq {first : Char} (starts : StartsNumber first) (offset : Nat) :
    scalarLexeme offset first rest = (numberLexeme ⟨offset, first :: rest⟩).map .number := by
  have notNull : first ≠ 'n' := starts.ne (by decide)
  have notTrue : first ≠ 't' := starts.ne (by decide)
  have notFalse : first ≠ 'f' := starts.ne (by decide)
  have notQuote : first ≠ '"' := starts.ne (by decide)
  rw [scalarLexeme, if_neg notNull, if_neg notTrue, if_neg notFalse, if_neg notQuote]
  exact if_pos starts

end Number

end Cursor
end GraphSelect
