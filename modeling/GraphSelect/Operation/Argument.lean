import GraphSelect.Json.Basic
import GraphSelect.Selector.Basic

/-!
# Arguments of a query call

A query call is a list of arguments. Each is a text (the name of an operation or a
raw fragment), a value (the parameters of an operation), or a selector.
-/

set_option autoImplicit false

namespace GraphSelect

/-- The value counts as none: null, false, a number equal to zero, the empty text. -/
def Json.isFalsy : Json → Bool
  | .null => true
  | .bool value => !value
  | .number value => value.isZero
  | .string text => text.isEmpty
  | _ => false

/-- One argument of a query call. -/
inductive Argument where
  | text (text : String)
  | value (value : Json)
  | selector (selector : Selector)

namespace Argument

/-- The argument is a text. -/
def isText : Argument → Bool
  | .text _ => true
  | _ => false

/-- The text of a text argument. -/
def text? : Argument → Option String
  | .text content => some content
  | _ => none

/-- The argument counts as missing: it is a falsy value. -/
def isAbsent : Argument → Bool
  | .value json => json.isFalsy
  | _ => false

/-- The sort of an argument, in a word. -/
def describe : Argument → String
  | .text _ => "text"
  | .value (.object _) => "object"
  | .value _ => "value"
  | .selector _ => "selector"

end Argument

end GraphSelect
