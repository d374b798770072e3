/-!
# Colors of a terminal

The escape codes that rendered diagnostics use, one for each role that a piece of
text can have. Without colors every code is empty.
-/

set_option autoImplicit false

namespace GraphSelect

/-- The codes that start a color, and the one that ends it. -/
structure Colors where
  /-- For the word of an error. -/
  red : String := ""
  /-- For the word of a warning. -/
  yellow : String := ""
  /-- For paths. -/
  blue : String := ""
  /-- For arrows and hints. -/
  dim : String := ""
  /-- Back to plain text. -/
  reset : String := ""
deriving DecidableEq, Repr, Inhabited

namespace Colors

/-- No codes at all. -/
def off : Colors := {}

/-- The standard codes, which light and dark terminals both know. -/
def on : Colors := ⟨"\x1b[31m", "\x1b[33m", "\x1b[34m", "\x1b[2m", "\x1b[0m"⟩

/-- The codes, when colors are wanted. -/
def ofBool (enabled : Bool) : Colors := if enabled then on else off

end Colors

end GraphSelect
