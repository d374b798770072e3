import GraphSelect.Json.Numeral
import GraphSelect.Json.Quotation

/-!
# Lexemes

A document is read in two ways. Where a value is wanted it is read, and where it
is of no interest it is skimmed: only its form is checked. A lexeme is a word, a
number or a string with the outcome of both. Whatever can be read can be skimmed,
and some lexemes can be skimmed only: a number out of range, or a string with half
of a surrogate pair.
-/

set_option autoImplicit false

namespace GraphSelect

/-- What stands at a place in a document, and the cursor after it. -/
inductive Lexeme (α : Type) where
  /-- It can be read. -/
  | good (value : α) (next : Cursor)
  /-- It can be skimmed, and reading it fails. -/
  | unreadable (failure : Failure) (next : Cursor)
  /-- Reading and skimming both fail. -/
  | broken (reading skimming : Failure)

namespace Lexeme

/-- The cursor after the lexeme, if there is one. -/
def next? {α : Type} : Lexeme α → Option Cursor
  | good _ next => some next
  | unreadable _ next => some next
  | broken .. => none

/-- The lexeme with another form of its value. -/
def map {α β : Type} (f : α → β) : Lexeme α → Lexeme β
  | good value next => good (f value) next
  | unreadable failure next => unreadable failure next
  | broken reading skimming => broken reading skimming

@[simp] theorem next?_map {α β : Type} (f : α → β) (lexeme : Lexeme α) :
    (lexeme.map f).next? = lexeme.next? := by
  cases lexeme <;> rfl

end Lexeme

namespace Cursor

/-- The string at a cursor that stands after the opening quote. -/
def stringLexeme (cursor : Cursor) : Lexeme String :=
  match cursor.string with
  | .ok (chars, next) => .good (.ofList chars) next
  | .error reading =>
    match cursor.skipString with
    | .ok next => .unreadable reading next
    | .error skimming => .broken reading skimming

/-- The number at a cursor. A number that ends too early is skimmed as an invalid one. -/
def numberLexeme (cursor : Cursor) : Lexeme JsonNumber :=
  match cursor.numeral with
  | .error failure => .broken failure ⟨.invalidNumber, failure.offset⟩
  | .ok (numeral, next) =>
    match numeral.value next.offset with
    | .ok number => .good number next
    | .error failure => .unreadable failure next

/-- The word that the letters complete, at a cursor that stands after its first letter. -/
def wordLexeme (letters : List Char) (value : Json) (cursor : Cursor) : Lexeme Json :=
  match cursor.skipWord letters with
  | .ok next => .good value next
  | .error failure => .broken failure failure

/-- The scalar that starts with the character `first`; `rest` stands after it. -/
def scalarLexeme (offset : Nat) (first : Char) (rest : List Char) : Lexeme Json :=
  let after : Cursor := ⟨offset + 1, rest⟩
  if first = 'n' then after.wordLexeme ['u', 'l', 'l'] .null
  else if first = 't' then after.wordLexeme ['r', 'u', 'e'] (.bool true)
  else if first = 'f' then after.wordLexeme ['a', 'l', 's', 'e'] (.bool false)
  else if first = '"' then after.stringLexeme.map .string
  else if first = '-' ∨ first.isDigit then
    (numberLexeme ⟨offset, first :: rest⟩).map .number
  else
    .broken ⟨.valueExpected, offset + 1⟩ ⟨.valueExpected, offset + 1⟩

/-! ## Progress -/

theorem length_le_of_string {cursor next : Cursor} {chars : List Char}
    (read : cursor.string = .ok (chars, next)) : next.rest.length ≤ cursor.rest.length := by
  fun_induction string cursor generalizing chars next with
  | case1 => simp at read
  | case2 cursor rest atRest =>
    simp only [Except.ok.injEq, Prod.mk.injEq] at read
    simp [← read.2, atRest]
  | case3 => simp at read
  | case4 => simp at read
  | case5 cursor rest atRest c middle escaped chars' last found ih =>
    simp only [Except.ok.injEq, Prod.mk.injEq] at read
    have := length_lt_of_escape escaped
    have := ih found
    simp only [← read.2, atRest, List.length_cons] at *
    omega
  | case6 => simp at read
  | case7 => simp at read
  | case8 cursor c rest _ _ atRest _ chars' last found ih =>
    simp only [Except.ok.injEq, Prod.mk.injEq] at read
    have := ih found
    simp only [← read.2, atRest, List.length_cons] at *
    omega

theorem length_le_of_skipString {cursor next : Cursor}
    (read : cursor.skipString = .ok next) : next.rest.length ≤ cursor.rest.length := by
  fun_induction skipString cursor with
  | case1 => simp at read
  | case2 cursor rest atRest =>
    simp only [Except.ok.injEq] at read
    simp [← read, atRest]
  | case3 => simp at read
  | case4 cursor rest atRest middle escaped ih =>
    have := length_lt_of_skipEscape escaped
    have := ih read
    simp only [atRest, List.length_cons] at *
    omega
  | case5 => simp at read
  | case6 cursor c rest _ _ atRest _ ih =>
    have := ih read
    simp only [atRest, List.length_cons] at *
    omega

theorem length_lt_of_someDigits {cursor next : Cursor} {found : List Nat}
    (read : cursor.someDigits = .ok (found, next)) :
    next.rest.length < cursor.rest.length := by
  unfold someDigits at read
  split at read
  · simp at read
  · rename_i nonempty
    simp only [Except.ok.injEq] at read
    obtain ⟨offset, rest⟩ := cursor
    cases rest with
    | nil => exact absurd (by simp [digits]) (nonempty ⟨offset, []⟩)
    | cons c rest =>
      by_cases digit : c.isDigit
      · simp only [digits, List.dropWhile_cons, digit, if_true, Prod.mk.injEq] at read
        rw [← read.2]
        exact Nat.lt_succ_of_le (List.dropWhile_sublist _).length_le
      · exact absurd (by simp [digits, digit]) (nonempty ⟨offset, c :: rest⟩)

theorem length_lt_of_wholeDigits {cursor next : Cursor} {found : List Nat}
    (read : cursor.wholeDigits = .ok (found, next)) :
    next.rest.length < cursor.rest.length := by
  unfold wholeDigits at read
  split at read
  · rename_i rest atRest
    split at read
    · simp only [Except.ok.injEq, Prod.mk.injEq] at read
      simp [← read.2, atRest]
    · split at read
      · simp at read
      · simp only [Except.ok.injEq, Prod.mk.injEq] at read
        simp [← read.2, atRest]
  · exact length_lt_of_someDigits read

theorem length_le_of_fraction {cursor next : Cursor} {found : Option (List Nat)}
    (read : cursor.fraction = .ok (found, next)) :
    next.rest.length ≤ cursor.rest.length := by
  unfold fraction at read
  split at read
  · rename_i rest atRest
    cases digits : someDigits ⟨cursor.offset + 1, rest⟩ with
    | error failure => simp [digits, bind, Except.bind] at read
    | ok pair =>
      have := length_lt_of_someDigits digits
      simp only [digits, bind, Except.bind, pure, Except.pure, Except.ok.injEq,
        Prod.mk.injEq] at read
      simp only [← read.2, atRest, List.length_cons] at this ⊢
      omega
  · simp only [Except.ok.injEq, Prod.mk.injEq] at read
    simp [← read.2]

theorem length_exponentSign_le (cursor : Cursor) :
    cursor.exponentSign.2.rest.length ≤ cursor.rest.length := by
  unfold exponentSign
  split <;> simp_all

theorem length_le_of_exponent {cursor next : Cursor} {found : Option NumeralExponent}
    (read : cursor.exponent = .ok (found, next)) :
    next.rest.length ≤ cursor.rest.length := by
  unfold exponent at read
  split at read
  · rename_i c rest atRest
    split at read
    · have signed := length_exponentSign_le ⟨cursor.offset + 1, rest⟩
      cases digits : (exponentSign ⟨cursor.offset + 1, rest⟩).2.someDigits with
      | error failure => simp [digits, bind, Except.bind] at read
      | ok pair =>
        have := length_lt_of_someDigits digits
        simp only [digits, bind, Except.bind, pure, Except.pure, Except.ok.injEq,
          Prod.mk.injEq] at read
        simp only [← read.2, atRest, List.length_cons] at this signed ⊢
        omega
    · simp only [Except.ok.injEq, Prod.mk.injEq] at read
      simp [← read.2]
  · simp only [Except.ok.injEq, Prod.mk.injEq] at read
    simp [← read.2]

theorem length_sign_le (cursor : Cursor) :
    cursor.sign.2.rest.length ≤ cursor.rest.length := by
  unfold sign
  split <;> simp_all

theorem length_lt_of_numeral {cursor next : Cursor} {found : Numeral}
    (read : cursor.numeral = .ok (found, next)) : next.rest.length < cursor.rest.length := by
  unfold numeral at read
  have signed := length_sign_le cursor
  simp only [bind, Except.bind] at read
  cases whole : cursor.sign.2.wholeDigits with
  | error failure => simp [whole] at read
  | ok pair =>
    have first := length_lt_of_wholeDigits whole
    simp only [whole] at read
    cases fraction : pair.2.fraction with
    | error failure => simp [fraction] at read
    | ok pair' =>
      have second := length_le_of_fraction fraction
      simp only [fraction] at read
      cases exponent : pair'.2.exponent with
      | error failure => simp [exponent] at read
      | ok pair'' =>
        have third := length_le_of_exponent exponent
        simp only [exponent, pure, Except.pure, Except.ok.injEq, Prod.mk.injEq] at read
        rw [← read.2]
        omega

theorem length_le_of_stringLexeme {cursor next : Cursor}
    (found : cursor.stringLexeme.next? = some next) :
    next.rest.length ≤ cursor.rest.length := by
  unfold stringLexeme at found
  split at found
  · rename_i read
    simp only [Lexeme.next?, Option.some.injEq] at found
    exact found ▸ length_le_of_string read
  · split at found
    · rename_i read
      simp only [Lexeme.next?, Option.some.injEq] at found
      exact found ▸ length_le_of_skipString read
    · simp [Lexeme.next?] at found

theorem length_lt_of_numberLexeme {cursor next : Cursor}
    (found : cursor.numberLexeme.next? = some next) :
    next.rest.length < cursor.rest.length := by
  unfold numberLexeme at found
  split at found
  · simp [Lexeme.next?] at found
  · rename_i read
    have := length_lt_of_numeral read
    split at found <;>
    · simp only [Lexeme.next?, Option.some.injEq] at found
      exact found ▸ this

theorem length_le_of_wordLexeme {letters : List Char} {value : Json} {cursor next : Cursor}
    (found : (cursor.wordLexeme letters value).next? = some next) :
    next.rest.length ≤ cursor.rest.length := by
  unfold wordLexeme at found
  split at found
  · rename_i read
    simp only [Lexeme.next?, Option.some.injEq] at found
    exact found ▸ length_le_of_skipWord read
  · simp [Lexeme.next?] at found

/-- A scalar takes at least its first character. -/
theorem length_le_of_scalarLexeme {offset : Nat} {first : Char} {rest : List Char}
    {next : Cursor} (found : (scalarLexeme offset first rest).next? = some next) :
    next.rest.length ≤ rest.length := by
  unfold scalarLexeme at found
  simp only at found
  split at found
  · exact length_le_of_wordLexeme found
  split at found
  · exact length_le_of_wordLexeme found
  split at found
  · exact length_le_of_wordLexeme found
  split at found
  · rw [Lexeme.next?_map] at found
    exact length_le_of_stringLexeme found
  split at found
  · rw [Lexeme.next?_map] at found
    exact Nat.le_of_lt_succ (length_lt_of_numberLexeme found)
  · simp [Lexeme.next?] at found

end Cursor
end GraphSelect
