import GraphSelect.Selection.Omission
import GraphSelect.Diagnostic.Basic

/-!
# The diagnostics of a selector

Every omission becomes one diagnostic for each thing that is wrong with the
relationship: one for each missing key, the identifier first, or one for a field
that is already used, with the field in its message.
-/

set_option autoImplicit false

namespace GraphSelect

/-- The kinds of diagnostic that missing keys give. -/
def MissingKeys.kinds : MissingKeys → List DiagnosticKind
  | .keyId => [.missingKeyId]
  | .keyValue => [.missingKeyValue]
  | .both => [.missingKeyId, .missingKeyValue]

/-- The diagnostics of one omission, all at its path. -/
def Omission.diagnostics (omission : Omission) : Diagnostics :=
  match omission.cause with
  | .missingKeys missing => missing.kinds.map fun kind => .of kind omission.path.text
  | .duplicateField field => [(Diagnostic.of .duplicateField omission.path.text).withDetail field]

/-- The diagnostics of everything that is left out of a selection set. -/
def Selector.diagnostics (selector : Selector) : Diagnostics :=
  selector.omissions.flatMap Omission.diagnostics

end GraphSelect
