import GraphSelect.Text.Blank

/-!
# Braces in raw text

A raw fragment is text that nobody has parsed. Two things are done with it. Its
braces are checked: reading from the front, a closing brace needs an opening one
that is still open, and at the end nothing may be open. And one pair of braces
around the whole fragment is removed, with the blanks outside and inside it.

Both work on characters alone. A brace inside a string counts like any other.
-/

set_option autoImplicit false

namespace GraphSelect

/-- The two braces. -/
inductive Brace where
  | opening
  | closing
deriving DecidableEq, Repr

/-- The character of a brace. -/
def Brace.char : Brace → Char
  | .opening => '{'
  | .closing => '}'

namespace Text

/-- A brace without a partner in text that starts inside `depth` open braces: a
closing brace when there is one too many, else an opening one when the text ends
before everything is closed. -/
def unmatchedBraceAt (depth : Nat) : List Char → Option Brace
  | [] => if depth = 0 then none else some .opening
  | c :: rest =>
    if c = '{' then
      unmatchedBraceAt (depth + 1) rest
    else if c = '}' then
      match depth with
      | 0 => some .closing
      | outer + 1 => unmatchedBraceAt outer rest
    else
      unmatchedBraceAt depth rest

/-- A brace without a partner, if there is one. -/
def unmatchedBrace? (text : String) : Option Brace := unmatchedBraceAt 0 text.toList

/-- The characters between an opening brace at the very front and a closing one
at the very end, if both are there. -/
def insideBraces? : List Char → Option (List Char)
  | [] => none
  | first :: rest =>
    if first = '{' ∧ rest.getLast? = some '}' then some rest.dropLast else none

/-- The text without the blanks at its ends and without one pair of braces around
it; without such a pair only the blanks go. -/
def stripOuterBraces (text : String) : String :=
  let trimmed := trim text.toList
  .ofList (trim ((insideBraces? trimmed).getD trimmed))

end Text

end GraphSelect
