import GraphSelect.Json.Fault

/-!
# Cursors

A cursor is a place in a document: the byte offset and the characters from there
on. The words of the grammar and the blanks between its tokens are consumed here.
-/

set_option autoImplicit false

namespace GraphSelect

/-- A place in a document. -/
structure Cursor where
  offset : Nat
  rest : List Char
deriving DecidableEq, Repr

namespace Cursor

/-- The start of a text. -/
def ofText (text : String) : Cursor := ⟨0, text.toList⟩

/-- The offset just past the next byte, or past the last one at the end. -/
def past (cursor : Cursor) : Nat :=
  if cursor.rest.isEmpty then cursor.offset else cursor.offset + 1

/-- The offset of the end of the text. -/
def stop (cursor : Cursor) : Nat := cursor.offset + Text.byteLength cursor.rest

/-- The characters that may stand between tokens. -/
def isBlank (c : Char) : Bool := c == ' ' || c == '\t' || c == '\n' || c == '\r'

/-- The cursor after the blanks. -/
def skipBlanks (cursor : Cursor) : Cursor :=
  ⟨cursor.offset + (cursor.rest.takeWhile isBlank).length, cursor.rest.dropWhile isBlank⟩

theorem length_skipBlanks_le (cursor : Cursor) :
    cursor.skipBlanks.rest.length ≤ cursor.rest.length :=
  (List.dropWhile_sublist _).length_le

/-- The cursor after the letters, which are all that is left of a word. -/
def skipWord : List Char → Cursor → Except Failure Cursor
  | [], cursor => .ok cursor
  | letter :: letters, cursor =>
    match cursor.rest with
    | [] => .error ⟨.textEnds .value, cursor.offset⟩
    | c :: rest =>
      if c = letter then skipWord letters ⟨cursor.offset + 1, rest⟩
      else .error ⟨.wordExpected, cursor.offset + 1⟩

theorem length_le_of_skipWord {letters : List Char} {cursor next : Cursor}
    (read : skipWord letters cursor = .ok next) : next.rest.length ≤ cursor.rest.length := by
  induction letters generalizing cursor with
  | nil =>
    simp only [skipWord, Except.ok.injEq] at read
    simp [read]
  | cons letter letters ih =>
    rw [skipWord] at read
    split at read
    · simp at read
    · rename_i c rest atRest
      split at read
      · simp only [atRest, List.length_cons]
        exact Nat.le_succ_of_le (ih read)
      · simp at read

end Cursor
end GraphSelect
