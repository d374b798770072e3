import GraphSelect.Command.Run

/-!
# The program

The outer layer: it reads the file or the input that an invocation needs, runs the
invocation, and writes what can be seen of it. A command line that is not accepted
gives a short summary of the usage.
-/

set_option autoImplicit false

namespace GraphSelect

/-- A summary of the command line. -/
def usageText : String :=
  "\n".intercalate
    ["GraphQL queries from entity-relationship selectors", "",
      "query [SELECTOR] -n NAME [--params JSON | --raw-params TEXT] [--strict]",
      "select [SELECTOR] [--indent TEXT] [--include FIELDS] [--depth N] [--strict]",
      "fragments FRAGMENT... [--strict]", "check [SELECTOR]", "",
      "A selector is a file, - for standard input, or -s JSON. Every command takes",
      "--color auto|always|never, -v for a log, and -h for this summary.", ""]

/-- A usage error in words. -/
def UsageError.message : UsageError → String
  | .helpWanted => ""
  | .nothingGiven | .commandMissing => "a command is required"
  | .commandUnknown => "unknown command"
  | .argumentUnknown => "unexpected argument"
  | .valueInvalid => "invalid or missing value"
  | .valueMalformed => "malformed value"
  | .valueSurplus => "a flag takes no value"
  | .conflict => "arguments exclude each other"
  | .argumentMissing => "a required argument is missing"

/-- The reason for which reading failed. -/
def ReadFault.ofError : IO.Error → ReadFault
  | .noFileOrDirectory .. => .missing
  | .inappropriateType .. => .directory
  | error => .other (toString error)

/-- The bytes as text. -/
def decoded (bytes : ByteArray) : Except ReadFault String :=
  match String.fromUTF8? bytes with
  | some text => .ok text
  | none => .error .notText

/-- The content of a file. -/
def readPath (path : String) : IO (Except ReadFault String) := do
  try
    return decoded (← IO.FS.readBinFile path)
  catch error =>
    return .error (.ofError error)

/-- What is left of standard input. -/
def readInput : IO (Except ReadFault String) := do
  try
    return decoded (← (← IO.getStdin).readBinToEnd)
  catch error =>
    return .error (.ofError error)

/-- Where the selector of a command comes from. -/
def Command.source? : Command → Option SelectorSource
  | query settings => some settings.source
  | select settings => some settings.source
  | fragments _ => none
  | check settings => some settings.source

/-- What a command finds around it. Only what it asks for is read, and the log is written
in plain lines. -/
def Command.environment (command : Command) : IO Environment := do
  let terminal ← (← IO.getStderr).isTty
  let unread : Environment :=
    { file := fun _ => .error .missing, input := .error .missing, terminal, format := .plain }
  match command.source? with
  | some ⟨some path, none⟩ =>
    if path = inputPath then
      return { unread with input := ← readInput }
    else
      let content ← readPath path
      return { unread with file := fun _ => content }
  | _ => return unread

end GraphSelect

open GraphSelect

/-- Runs the program. -/
def main (arguments : List String) : IO UInt32 := do
  match Invocation.parse arguments with
  | .error .helpWanted =>
    IO.print usageText
    return 0
  | .error error =>
    IO.eprint ("error: " ++ error.message ++ "\n\n" ++ usageText)
    return error.exitCode.toUInt32
  | .ok invocation =>
    let outcome := invocation.run (← invocation.command.environment)
    IO.eprint outcome.errors
    IO.print outcome.output
    return outcome.exitCode.toUInt32
