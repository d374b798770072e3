import GraphSelect.Json.Writer
import GraphSelect.Text.Location

/-!
# What can be wrong with a JSON document

A fault is the cause for which reading a document fails: the text ends too early,
it breaks the grammar, or it is well formed but does not hold what is expected. A
failure is a fault with the byte offset at which it is reported.
-/

set_option autoImplicit false

namespace GraphSelect

/-- What a reader expects to find. -/
inductive Expectation where
  | selector
  | relationship
  | metadata
  | sequence
deriving DecidableEq, Repr

/-- The words for an expectation. -/
def Expectation.text : Expectation → String
  | selector => "struct RawSelector"
  | relationship => "struct RawRelationship"
  | metadata => "struct RawMeta"
  | sequence => "a sequence"

/-- What a reader finds instead. -/
inductive Found where
  | null
  | bool (value : Bool)
  | number (value : JsonNumber)
  | string (value : String)
  | sequence
  | map
deriving DecidableEq

/-- The words for what is found. -/
def Found.text : Found → String
  | null => "null"
  | bool value => "boolean `" ++ (if value then "true" else "false") ++ "`"
  | number (.integer value) => "integer `" ++ value.value.repr ++ "`"
  | number (.double value) => "floating point `" ++ value.text ++ "`"
  | string value => "string " ++ Text.shown value
  | sequence => "sequence"
  | map => "map"

/-- What a reader finds in the place of a value. -/
def Json.found : Json → Found
  | .null => .null
  | .bool value => .bool value
  | .number value => .number value
  | .string value => .string value
  | .array _ => .sequence
  | .object _ => .map

/-- The part of a document in which the text ends. -/
inductive Construct where
  | value
  | string
  | list
  | object
deriving DecidableEq, Repr

/-- The causes for which reading a document fails. -/
inductive JsonFault where
  /-- The text ends inside a part of the document. -/
  | textEnds (inside : Construct)
  | valueExpected
  | wordExpected
  | colonExpected
  | listEndExpected
  | objectEndExpected
  | keyExpected
  | trailingComma
  | trailingCharacters
  | invalidNumber
  | numberOutOfRange
  | invalidEscape
  | controlCharacter
  | loneSurrogate
  | surrogateCutShort
  | tooDeep
  /-- A value is of another type than expected. -/
  | wrongType (found : Found) (expected : Expectation)
  /-- A list with one element for each field has more elements than that. -/
  | tooLong (length : Nat)
  /-- A field is given twice. -/
  | duplicateField (name : String)
deriving DecidableEq

/-- The three sorts of fault. -/
inductive FaultSort where
  | endOfText
  | grammar
  | data
deriving DecidableEq, Repr

namespace JsonFault

/-- The sort of a fault. -/
def sort : JsonFault → FaultSort
  | textEnds _ => .endOfText
  | wrongType .. | tooLong _ | duplicateField _ => .data
  | _ => .grammar

/-- The fault in words. -/
def text : JsonFault → String
  | textEnds .value => "EOF while parsing a value"
  | textEnds .string => "EOF while parsing a string"
  | textEnds .list => "EOF while parsing a list"
  | textEnds .object => "EOF while parsing an object"
  | valueExpected => "expected value"
  | wordExpected => "expected ident"
  | colonExpected => "expected `:`"
  | listEndExpected => "expected `,` or `]`"
  | objectEndExpected => "expected `,` or `\x7d`"
  | keyExpected => "key must be a string"
  | trailingComma => "trailing comma"
  | trailingCharacters => "trailing characters"
  | invalidNumber => "invalid number"
  | numberOutOfRange => "number out of range"
  | invalidEscape => "invalid escape"
  | controlCharacter =>
    "control character (\\u0000-\\u001F) found while parsing a string"
  | loneSurrogate => "lone leading surrogate in hex escape"
  | surrogateCutShort => "unexpected end of hex escape"
  | tooDeep => "recursion limit exceeded"
  | wrongType found expected =>
    "invalid type: " ++ found.text ++ ", expected " ++ expected.text
  | tooLong length =>
    "invalid length " ++ length.repr ++ ", expected 1 element in sequence"
  | duplicateField name => "duplicate field `" ++ name ++ "`"

end JsonFault

/-- A fault and the byte offset at which it is reported. -/
structure Failure where
  fault : JsonFault
  offset : Nat
deriving DecidableEq

/-- Why a document could not be read, and where. -/
structure JsonError where
  fault : JsonFault
  location : Location
deriving DecidableEq

/-- The failure as an error of the text in which it happened. -/
def Failure.error (failure : Failure) (text : String) : JsonError :=
  ⟨failure.fault, Text.locate text failure.offset⟩

/-- The error in words. -/
def JsonError.message (error : JsonError) : String :=
  error.fault.text ++ " at line " ++ error.location.line.repr ++ " column " ++
    error.location.column.repr

end GraphSelect
