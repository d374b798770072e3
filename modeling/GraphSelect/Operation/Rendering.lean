import GraphSelect.Diagnostic.Selector
import GraphSelect.Operation.Request
import GraphSelect.Selection.Layout
import GraphSelect.Text.Braces

/-!
# The text of a request

A named operation is written with its parameters and with the compact selection
set of its selector, inside one pair of braces. Fragments lose the braces around
them and are joined inside one pair. What is left out of the selection set, or is
not balanced in a fragment, has a diagnostic.
-/

set_option autoImplicit false

namespace GraphSelect

/-- The level of the selection set inside a named operation. -/
def selectionDepth : Nat := 2

/-- The diagnostics of the fragments, when `index` is the position of the first: one
for each that has a brace without a partner. -/
def fragmentDiagnostics (index : Nat) : List String → Diagnostics
  | [] => []
  | fragment :: rest =>
    match Text.unmatchedBrace? fragment with
    | none => fragmentDiagnostics (index + 1) rest
    | some brace =>
      ((Diagnostic.of .unbalancedBraces ("fragments[" ++ index.repr ++ "]")).withHint
        ("unmatched `" ++ brace.char.toString ++ "`")) :: fragmentDiagnostics (index + 1) rest

namespace Request

/-- The text of a request. -/
def text : Request → String
  | .fragments texts => "\x7b" ++ "\n".intercalate (texts.map Text.stripOuterBraces) ++ "\x7d"
  | .named name parameters selector =>
    "\x7b\n" ++ name ++ (parameters.map Parameters.segment).getD "" ++ " \x7b\n" ++
      selector.compile { depth := selectionDepth } ++ "\x7d\n\x7d"

/-- The diagnostics of the text of a request. -/
def diagnostics : Request → Diagnostics
  | .fragments texts => fragmentDiagnostics 0 texts
  | .named _ _ selector => selector.diagnostics

end Request

end GraphSelect
