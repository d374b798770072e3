/-!
# Places in a text

A place in a text is a byte offset in its UTF-8 form. Readers know it by its line,
counted from one, and its column, the number of bytes since the line began.
-/

set_option autoImplicit false

namespace GraphSelect

/-- A line and a column. -/
structure Location where
  line : Nat
  column : Nat
deriving DecidableEq, Repr

namespace Text

/-- The number of bytes of the characters. -/
def byteLength : List Char → Nat
  | [] => 0
  | c :: rest => c.utf8Size + byteLength rest

/-- The location of `target`, from the offset `here` on a line that began at
`lineStart`. Only line ends before the target count. -/
def locateFrom (target line lineStart here : Nat) : List Char → Location
  | [] => ⟨line, target - lineStart⟩
  | c :: rest =>
    if target ≤ here then ⟨line, target - lineStart⟩
    else if c = '\n' then locateFrom target (line + 1) (here + 1) (here + 1) rest
    else locateFrom target line lineStart (here + c.utf8Size) rest

/-- The location of a byte offset in a text. -/
def locate (text : String) (offset : Nat) : Location :=
  locateFrom offset 1 0 0 text.toList

end Text
end GraphSelect
