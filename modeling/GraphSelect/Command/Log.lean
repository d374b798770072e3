import GraphSelect.Selection.Omission
import GraphSelect.Text.Quoted

/-!
# The log

When it is asked for, the program logs what it does, one line for each record:
which command runs, which selector was loaded, and every relationship that was
left out. What is told of a record is its `LogEntry`: a level, a message and
fields. Texts from the input are quoted there.

How an entry is written is not fixed. A `LogFormat` gives the line of an entry,
which may depend on the moment, so that the time can stand in it. The program
itself writes plain lines without the time.
-/

set_option autoImplicit false

namespace GraphSelect

/-! ## Entries -/

/-- How detailed an entry is. -/
inductive LogLevel where
  | debug
  | trace
deriving DecidableEq, Repr

namespace LogLevel

/-- The word for a level. -/
def word : LogLevel → String
  | debug => "DEBUG"
  | trace => "TRACE"

/-- The verbosity from which on entries of a level show. -/
def leastVerbosity : LogLevel → Nat
  | debug => 1
  | trace => 2

end LogLevel

/-- The value of a field. -/
inductive LogValue where
  /-- A text in quotes. -/
  | quoted (text : String)
  /-- A text as it stands. -/
  | plain (text : String)
  | number (value : Nat)
  /-- Several texts, each in quotes. -/
  | list (texts : List String)
deriving DecidableEq, Repr

/-- The value in words. -/
def LogValue.text : LogValue → String
  | quoted text => Text.shown text
  | plain text => text
  | number value => value.repr
  | list texts => "[" ++ ", ".intercalate (texts.map Text.shown) ++ "]"

/-- What is told in the log: a message, and fields with their names. -/
structure LogEntry where
  level : LogLevel
  message : String
  fields : List (String × LogValue)
deriving DecidableEq, Repr

/-! ## Records -/

/-- One thing that is logged. -/
inductive LogRecord where
  | dispatching (command : String)
  | loaded (origin : String) (relationships depth : Nat)
  /-- A relationship was left out. -/
  | omitted (omission : Omission)
deriving DecidableEq, Repr

/-- What is told of a record. -/
def LogRecord.entry : LogRecord → LogEntry
  | dispatching command => ⟨.debug, "dispatching", [("command", .quoted command)]⟩
  | loaded origin relationships depth =>
    ⟨.debug, "loaded selector",
      [("origin", .quoted origin), ("relationships", .number relationships),
        ("depth", .number depth)]⟩
  | omitted ⟨path, .missingKeys _⟩ =>
    ⟨.debug, "skipping relationship without keys", [("path", .quoted path.text)]⟩
  | omitted ⟨path, .duplicateField field⟩ =>
    ⟨.debug, "duplicate relationship field",
      [("path", .plain path.text), ("field", .quoted field)]⟩

/-- The records of what is left out of a selector. -/
def Selector.omissionRecords (selector : Selector) : List LogRecord :=
  selector.omissions.map .omitted

/-! ## Formats -/

/-- How a log is written. -/
structure LogFormat where
  /-- The line of an entry, with the newline at its end. The number is the place of the
  entry in the log, and stands for the moment. -/
  line : Nat → LogEntry → String

/-- What sets off the parts of a line. -/
structure LogStyle where
  /-- In front of a line, such as the time. -/
  stamp : Nat → String := fun _ => ""
  /-- The code for the word of a level. -/
  level : LogLevel → String := fun _ => ""
  /-- The code for the name of a field. -/
  name : String := ""
  /-- The code for the sign behind the name. -/
  sign : String := ""
  /-- Back to plain text. -/
  reset : String := ""

namespace LogStyle

/-- A field behind what is already on the line. -/
def field (style : LogStyle) (field : String × LogValue) : String :=
  " " ++ style.name ++ field.1 ++ style.reset ++ style.sign ++ "=" ++ style.reset ++ field.2.text

/-- The line of an entry: its level, its message and its fields. -/
def line (style : LogStyle) (moment : Nat) (entry : LogEntry) : String :=
  style.stamp moment ++ style.level entry.level ++ entry.level.word ++ style.reset ++ " " ++
    entry.message ++ String.join (entry.fields.map style.field) ++ "\n"

end LogStyle

namespace LogFormat

/-- The format in a style. -/
def styled (style : LogStyle) : LogFormat := ⟨style.line⟩

/-- The format without codes and times. -/
def plain : LogFormat := styled {}

/-- The lines of entries that follow each other from a moment on. -/
def lines (format : LogFormat) (moment : Nat) (entries : List LogEntry) : List String :=
  (entries.zipIdx moment).map fun (entry, moment) => format.line moment entry

@[simp] theorem lines_nil (format : LogFormat) (moment : Nat) : format.lines moment [] = [] := rfl

@[simp] theorem lines_cons (format : LogFormat) (moment : Nat) (entry : LogEntry)
    (entries : List LogEntry) :
    format.lines moment (entry :: entries) =
      format.line moment entry :: format.lines (moment + 1) entries := rfl

end LogFormat

end GraphSelect
