/-!
# Diagnostics

A diagnostic records one thing in the input that was left out or is not to be
trusted: what kind of thing it is, where it is, a message, and hints on how to
mend it. The kind fixes the severity, the hint that comes with every diagnostic
of the kind, the message that is used without a detail, and the template that
takes a detail in.
-/

set_option autoImplicit false

namespace GraphSelect

/-- How much a diagnostic weighs. -/
inductive Severity where
  | error
  | warning
deriving DecidableEq, Repr

/-- The word for a severity. -/
def Severity.text : Severity → String
  | .error => "error"
  | .warning => "warning"

/-- A text with one place for a detail. -/
structure Template where
  before : String
  after : String
deriving DecidableEq, Repr

namespace Template

/-- The text with the detail in its place. -/
def fill (template : Template) (detail : String) : String :=
  template.before ++ detail ++ template.after

/-- The text with a pair of braces in the place of the detail. -/
def text (template : Template) : String := template.fill "\x7b\x7d"

end Template

/-- The ways in which input can be left out or distrusted. -/
inductive DiagnosticKind where
  /-- A relationship has no identifier. -/
  | missingKeyId
  /-- A relationship has no field. -/
  | missingKeyValue
  /-- The field of a relationship is already selected at its level. -/
  | duplicateField
  /-- A call that looks like a named operation is none. -/
  | unrecognizedCallShape
  /-- An argument of a call is not used. -/
  | ignoredArgument
  /-- A fragment has a brace without a partner. -/
  | unbalancedBraces
deriving DecidableEq, Repr

namespace DiagnosticKind

/-- Unbalanced braces spoil the whole document; everything else is only left out. -/
def severity : DiagnosticKind → Severity
  | .unbalancedBraces => .error
  | _ => .warning

/-- The hint that comes with every diagnostic of the kind. -/
def hint? : DiagnosticKind → Option String
  | .missingKeyId | .missingKeyValue =>
    some "relationships are compiled only when both `keyId` and `keyValue` are strings"
  | .unrecognizedCallShape =>
    some
      "expected (name, selector) or (name, params, selector); rendered as fragments instead"
  | _ => none

/-- The message without a detail. -/
def fallbackMessage : DiagnosticKind → String
  | .missingKeyId => "relationship skipped: `keyId` is missing"
  | .missingKeyValue => "relationship skipped: `keyValue` is missing"
  | .duplicateField => "relationship skipped: field already selected at this level"
  | .unrecognizedCallShape => "unrecognized call shape"
  | .ignoredArgument => "argument ignored"
  | .unbalancedBraces => "unbalanced braces in fragment"

/-- The message with a place for a detail. -/
def template : DiagnosticKind → Template
  | .duplicateField => ⟨"relationship skipped: `", "` is already selected at this level"⟩
  | .ignoredArgument => ⟨"", " argument ignored"⟩
  | kind => ⟨kind.fallbackMessage ++ ": ", ""⟩

/-- The message with the detail, when there is one. -/
def message (kind : DiagnosticKind) : Option String → String
  | none => kind.fallbackMessage
  | some detail => kind.template.fill detail

end DiagnosticKind

/-- One thing that was left out or is not to be trusted. -/
structure Diagnostic where
  kind : DiagnosticKind
  /-- Where it is: in a selector, among the arguments or among the fragments. -/
  path : String
  message : String
  hints : List String
deriving DecidableEq, Repr

namespace Diagnostic

/-- A diagnostic with the message and the hint of its kind. -/
def of (kind : DiagnosticKind) (path : String) : Diagnostic :=
  ⟨kind, path, kind.fallbackMessage, kind.hint?.toList⟩

/-- The diagnostic with the detail in its message. -/
def withDetail (diagnostic : Diagnostic) (detail : String) : Diagnostic :=
  { diagnostic with message := diagnostic.kind.message (some detail) }

/-- The diagnostic with one more hint, after the others. -/
def withHint (diagnostic : Diagnostic) (hint : String) : Diagnostic :=
  { diagnostic with hints := diagnostic.hints ++ [hint] }

/-- The severity of a diagnostic is that of its kind. -/
def severity (diagnostic : Diagnostic) : Severity := diagnostic.kind.severity

/-- The diagnostic on one line, without its hints. -/
def text (diagnostic : Diagnostic) : String :=
  diagnostic.severity.text ++ ": " ++ diagnostic.message ++ " at " ++ diagnostic.path

end Diagnostic

/-- The diagnostics of one run, in the order in which they were reported. -/
abbrev Diagnostics := List Diagnostic

namespace Diagnostics

/-- How many diagnostics have the given severity. -/
def countOf (severity : Severity) (diagnostics : Diagnostics) : Nat :=
  diagnostics.countP fun diagnostic => diagnostic.severity = severity

/-- A number of things of one severity, in words; nothing for none. -/
def countText? (severity : Severity) (diagnostics : Diagnostics) : Option String :=
  match diagnostics.countOf severity with
  | 0 => none
  | 1 => some ("1 " ++ severity.text)
  | count => some (count.repr ++ " " ++ severity.text ++ "s")

/-- The line that sums up the check of a selector: the errors, then the warnings. -/
def tally (diagnostics : Diagnostics) : String :=
  "selector check found " ++
    " and ".intercalate
      ((diagnostics.countText? .error).toList ++ (diagnostics.countText? .warning).toList)

end Diagnostics

end GraphSelect
