import GraphSelect.Command.Invocation
import GraphSelect.Command.Log
import GraphSelect.Selector.Reader

/-!
# Where selectors come from

A selector is loaded from a text of the command line, from standard input, or from
a file. What the files and standard input hold is given by an `Environment`, and so
is how the error stream is written to. A run of the program is a function of it.
-/

set_option autoImplicit false

namespace GraphSelect

/-- Why something cannot be read. -/
inductive ReadFault where
  | missing
  | notDirectory
  | directory
  | nameTooLong
  | nulInName
  | notText
  /-- Any other reason, in words. -/
  | other (reason : String)
deriving DecidableEq, Repr

/-- The reason in words. -/
def ReadFault.message : ReadFault → String
  | missing => "No such file or directory (os error 2)"
  | notDirectory => "Not a directory (os error 20)"
  | directory => "Is a directory (os error 21)"
  | nameTooLong => "File name too long (os error 36)"
  | nulInName => "file name contained an unexpected NUL byte"
  | notText => "stream did not contain valid UTF-8"
  | other reason => reason

/-- What a run finds around it. -/
structure Environment where
  /-- The files, by their paths. -/
  file : String → Except ReadFault String
  /-- Standard input. -/
  input : Except ReadFault String
  /-- The error stream is a terminal. -/
  terminal : Bool := false
  /-- How the log is written. -/
  format : LogFormat := .plain

/-- Why a selector cannot be loaded. -/
inductive LoadError where
  | missing
  | input (fault : ReadFault)
  | file (path : String) (fault : ReadFault)
  | malformed (origin : String) (error : JsonError)
deriving DecidableEq

/-- The error in words. -/
def LoadError.message : LoadError → String
  | missing => "selector is required: use a positional argument or -s/--selector"
  | input fault => "failed to read stdin: " ++ fault.message
  | file path fault => "failed to read '" ++ path ++ "': " ++ fault.message
  | malformed origin error =>
    "invalid selector JSON in " ++ origin ++ ": " ++ error.message

/-- A selector and the name of the place that it comes from. -/
structure Loaded where
  origin : String
  selector : Selector
deriving DecidableEq

/-- The selector of a text that comes from `origin`. -/
def Loaded.ofText (origin text : String) : Except LoadError Loaded :=
  match Selector.parse text with
  | .ok selector => .ok ⟨origin, selector⟩
  | .error error => .error (.malformed origin error)

/-- The path that stands for standard input. -/
def inputPath : String := "-"

/-- The selector of a source. -/
def SelectorSource.load (environment : Environment) (source : SelectorSource) :
    Except LoadError Loaded :=
  match source.text, source.path with
  | some text, _ => Loaded.ofText "<inline>" text
  | none, none => .error .missing
  | none, some path =>
    if path = inputPath then
      match environment.input with
      | .ok text => Loaded.ofText "<stdin>" text
      | .error fault => .error (.input fault)
    else
      match environment.file path with
      | .ok text => Loaded.ofText ("'" ++ path ++ "'") text
      | .error fault => .error (.file path fault)

end GraphSelect
