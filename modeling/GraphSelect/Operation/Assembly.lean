import GraphSelect.Diagnostic.Policy
import GraphSelect.Operation.Rendering

/-!
# Assembling queries

A query call is classified and rendered. The diagnostics of both steps, in this
order, are put before a policy.
-/

set_option autoImplicit false

namespace GraphSelect

/-- The text of a request under a policy. -/
def Request.render (policy : Policy) (request : Request) : Except Rejection String :=
  policy.check request.diagnostics request.text

/-- The text of a query call and all its diagnostics. -/
def assembleAll (arguments : List Argument) : String × Diagnostics :=
  let (request, diagnostics) := Request.classify arguments
  (request.text, diagnostics ++ request.diagnostics)

/-- The text of a query call under a policy. -/
def assemble (policy : Policy) (arguments : List Argument) : Except Rejection String :=
  let (text, diagnostics) := assembleAll arguments
  policy.check diagnostics text

end GraphSelect
