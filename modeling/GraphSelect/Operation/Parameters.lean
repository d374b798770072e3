import GraphSelect.Json.Writer

/-!
# Parameters of an operation

Parameters stand in parentheses after the name of an operation. They are a raw
text, or entries of a name and a value, where the value is written as JSON.
-/

set_option autoImplicit false

namespace GraphSelect

/-- The parameters of an operation. -/
inductive Parameters where
  /-- A text that stands between the parentheses as it is. -/
  | raw (text : String)
  /-- Names and values, in order. -/
  | entries (entries : List (String × Json))

instance : Inhabited Parameters := ⟨.entries []⟩

namespace Parameters

/-- The items of a list named by their positions, the first of which is `index`. -/
def numbered (index : Nat) : List Json → List (String × Json)
  | [] => []
  | first :: rest => (index.repr, first) :: numbered (index + 1) rest

/-- The parameters that a value stands for: the members of an object, the items of
a list by position, a string as raw text. Everything else stands for none. -/
def ofValue : Json → Parameters
  | .object members => .entries members
  | .array items => .entries (numbered 0 items)
  | .string text => .raw text
  | _ => .entries []

/-- There is nothing to write. A raw text is always written, even an empty one. -/
def isEmpty : Parameters → Bool
  | .raw _ => false
  | .entries list => list.isEmpty

/-- The text of one entry. -/
def entryText (entry : String × Json) : String := entry.1 ++ ": " ++ entry.2.text

/-- The text between the parentheses. -/
def inner : Parameters → String
  | .raw text => text
  | .entries list => ", ".intercalate (list.map entryText)

/-- The parameters with their parentheses, or nothing when they are empty. -/
def segment (parameters : Parameters) : String :=
  if parameters.isEmpty then "" else "(" ++ parameters.inner ++ ")"

end Parameters

end GraphSelect
