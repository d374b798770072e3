import GraphSelect.Json.Basic
import GraphSelect.Number.Text
import GraphSelect.Text.Quoted

/-!
# The text of a JSON value

The compact form: no blanks, members in order, integers in decimal, doubles with
the fewest digits that read back, strings with only the necessary escapes.
-/

set_option autoImplicit false

namespace GraphSelect

/-- The text of a number. -/
def JsonNumber.text : JsonNumber → String
  | .integer number => number.value.repr
  | .double number => number.text

namespace Json

mutual

/-- The text of a value. -/
def text : Json → String
  | null => "null"
  | bool value => if value then "true" else "false"
  | number value => value.text
  | string value => Text.quoted value
  | array items => "[" ++ ",".intercalate (textOfItems items) ++ "]"
  | object members => "\x7b" ++ ",".intercalate (textOfMembers members) ++ "\x7d"

/-- The text of every item. -/
def textOfItems : List Json → List String
  | [] => []
  | first :: rest => text first :: textOfItems rest

/-- The text of every member. -/
def textOfMembers : List (String × Json) → List String
  | [] => []
  | (name, value) :: rest =>
    (Text.quoted name ++ ":" ++ text value) :: textOfMembers rest

end

end Json

end GraphSelect
