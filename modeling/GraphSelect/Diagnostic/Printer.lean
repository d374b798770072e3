import GraphSelect.Diagnostic.Basic
import GraphSelect.Diagnostic.Colors

/-!
# Rendered diagnostics

A rendered diagnostic is a line with its severity and message, a line with its
path, and one line for each hint when hints are wanted. An empty line stands
between two diagnostics.
-/

set_option autoImplicit false

namespace GraphSelect

/-- The code that the word for a severity is written in. -/
def Colors.ofSeverity (colors : Colors) : Severity → String
  | .error => colors.red
  | .warning => colors.yellow

namespace Diagnostic

/-- The line with the severity and the message. -/
def headLine (colors : Colors) (diagnostic : Diagnostic) : String :=
  colors.ofSeverity diagnostic.severity ++ diagnostic.severity.text ++ colors.reset ++ ": " ++
    diagnostic.message ++ "\n"

/-- The line with the path. -/
def pathLine (colors : Colors) (diagnostic : Diagnostic) : String :=
  "  " ++ colors.dim ++ "-->" ++ colors.reset ++ " " ++ colors.blue ++ diagnostic.path ++
    colors.reset ++ "\n"

/-- The line of one hint. -/
def hintLine (colors : Colors) (hint : String) : String :=
  "  " ++ colors.dim ++ "= help:" ++ colors.reset ++ " " ++ hint ++ "\n"

/-- All lines of a diagnostic. -/
def render (colors : Colors) (withHints : Bool) (diagnostic : Diagnostic) : String :=
  diagnostic.headLine colors ++ diagnostic.pathLine colors ++
    if withHints then String.join (diagnostic.hints.map (hintLine colors)) else ""

end Diagnostic

/-- All diagnostics, with an empty line between two of them. -/
def Diagnostics.render (colors : Colors) (withHints : Bool) (diagnostics : Diagnostics) :
    String :=
  "\n".intercalate (diagnostics.map (Diagnostic.render colors withHints))

end GraphSelect
