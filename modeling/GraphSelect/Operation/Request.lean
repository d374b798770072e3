import GraphSelect.Diagnostic.Basic
import GraphSelect.Operation.Argument
import GraphSelect.Operation.Parameters

/-!
# Requests

A request is what a query call means. A call that starts with a text and a
selector is a named operation, and so is one that starts with a text, a value and
a selector, where the value holds the parameters. The third argument decides which
of the two is meant: it counts unless it is missing, a text, or a falsy value.
Every other call is a list of fragments, made of its texts.

`Request.classify` finds the request of a call, with a diagnostic for a call that
looks like a named operation and is none, and one for every argument that the
request does not use.
-/

set_option autoImplicit false

namespace GraphSelect

/-- What a query call means. -/
inductive Request where
  | fragments (texts : List String)
  | named (name : String) (parameters : Option Parameters) (selector : Selector)

namespace Request

/-- The third argument is the selector of a call with parameters, if anything. -/
def takesParameters : List Argument → Bool
  | [] => false
  | third :: _ => !third.isText && !third.isAbsent

/-- The named operation at the front of a call, and the number of arguments that
it uses. -/
def named? : List Argument → Option (Request × Nat)
  | .text name :: second :: rest =>
    if takesParameters rest then
      match second, rest with
      | .value value, .selector selector :: _ =>
        some (.named name (some (.ofValue value)) selector, 3)
      | _, _ => none
    else
      match second with
      | .selector selector => some (.named name none selector, 2)
      | _ => none
  | _ => none

/-- The call has a second argument that is no text, as named operations do. -/
def looksNamed : List Argument → Bool
  | _ :: second :: _ => !second.isText
  | _ => false

/-- The diagnostic of an argument that is not used. -/
def ignored (index : Nat) (argument : Argument) : Diagnostic :=
  (Diagnostic.of .ignoredArgument ("args[" ++ index.repr ++ "]")).withDetail argument.describe

/-- The diagnostics of the arguments that are not used, when `index` is the
position of the first. -/
def ignoredAll (index : Nat) : List Argument → Diagnostics
  | [] => []
  | argument :: rest => ignored index argument :: ignoredAll (index + 1) rest

/-- The diagnostics of the arguments that are no fragments. -/
def ignoredOthers (index : Nat) : List Argument → Diagnostics
  | [] => []
  | argument :: rest =>
    if argument.isText then ignoredOthers (index + 1) rest
    else ignored index argument :: ignoredOthers (index + 1) rest

/-- The diagnostic of a call that looks like a named operation and is none. -/
def unrecognized (arguments : List Argument) : Diagnostic :=
  (Diagnostic.of .unrecognizedCallShape "args").withDetail
    ("(" ++ ", ".intercalate (arguments.map Argument.describe) ++ ")")

/-- The request of a call, with its diagnostics. -/
def classify (arguments : List Argument) : Request × Diagnostics :=
  match named? arguments with
  | some (request, used) => (request, ignoredAll used (arguments.drop used))
  | none =>
    (.fragments (arguments.filterMap Argument.text?),
      (if looksNamed arguments then [unrecognized arguments] else []) ++
        ignoredOthers 0 arguments)

end Request

end GraphSelect
