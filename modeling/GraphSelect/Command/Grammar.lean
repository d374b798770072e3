/-!
# The grammar of the command line

The program has four commands. Each has options, which are flags or take a value,
and at most one kind of positional argument. Every command, and the program
itself, also takes the options for help and for verbosity.
-/

set_option autoImplicit false

namespace GraphSelect

/-- The commands of the program. -/
inductive CommandName where
  | query
  | select
  | fragments
  | check
deriving DecidableEq, Repr

namespace CommandName

/-- The word for a command. -/
def text : CommandName → String
  | query => "query"
  | select => "select"
  | fragments => "fragments"
  | check => "check"

/-- All commands. -/
def all : List CommandName := [query, select, fragments, check]

/-- The command that a word names. -/
def ofText? (word : String) : Option CommandName :=
  all.find? fun command => command.text = word

end CommandName

/-- The word that asks for help in the place of a command. -/
def helpWord : String := "help"

/-- What an argument of the command line is for. -/
inductive Slot where
  | selectorPath
  | selectorText
  | name
  | parameters
  | rawParameters
  | indent
  | included
  | depth
  | fragments
  | strict
  | color
  | verbose
  | help
deriving DecidableEq, Repr

/-- An option with its long name and perhaps a letter. -/
structure OptionRule where
  slot : Slot
  long : String
  letter : Option Char := none
  /-- The option takes a value. -/
  takesValue : Bool := true
deriving DecidableEq, Repr

/-- The positional arguments of a command. -/
inductive PositionalRule where
  | none
  /-- At most one. -/
  | one (slot : Slot)
  /-- Any number. -/
  | many (slot : Slot)
deriving DecidableEq, Repr

/-- What a command accepts. -/
structure Grammar where
  options : List OptionRule
  positional : PositionalRule
deriving DecidableEq, Repr

namespace Grammar

/-- The options that are accepted everywhere. -/
def commonOptions : List OptionRule :=
  [⟨.verbose, "verbose", some 'v', false⟩, ⟨.help, "help", some 'h', false⟩]

/-- The option that makes omissions an error. -/
def strictOption : OptionRule := ⟨.strict, "strict", none, false⟩

/-- The option for colors. -/
def colorOption : OptionRule := { slot := .color, long := "color" }

/-- The option for a selector in place of a file. -/
def selectorOption : OptionRule :=
  { slot := .selectorText, long := "selector", letter := some 's' }

/-- What the program accepts before a command. -/
def ofProgram : Grammar := ⟨commonOptions, .none⟩

/-- What a command accepts. -/
def ofCommand : CommandName → Grammar
  | .query =>
    ⟨[{ slot := .name, long := "name", letter := some 'n' },
      { slot := .parameters, long := "params" },
      { slot := .rawParameters, long := "raw-params" },
      strictOption, colorOption, selectorOption] ++ commonOptions,
      .one .selectorPath⟩
  | .select =>
    ⟨[{ slot := .indent, long := "indent" }, { slot := .included, long := "include" },
      { slot := .depth, long := "depth" }, strictOption, colorOption, selectorOption] ++
        commonOptions,
      .one .selectorPath⟩
  | .fragments => ⟨[strictOption, colorOption] ++ commonOptions, .many .fragments⟩
  | .check => ⟨[colorOption, selectorOption] ++ commonOptions, .one .selectorPath⟩

/-- The option with a long name. -/
def long? (grammar : Grammar) (name : String) : Option OptionRule :=
  grammar.options.find? fun rule => rule.long = name

/-- The option with a letter. -/
def letter? (grammar : Grammar) (letter : Char) : Option OptionRule :=
  grammar.options.find? fun rule => rule.letter = some letter

/-- The slots that a command needs. -/
def required : CommandName → List Slot
  | .query => [.name]
  | .fragments => [.fragments]
  | _ => []

/-- The pairs of slots that cannot both be filled. -/
def conflicts : List (Slot × Slot) :=
  [(.selectorText, .selectorPath), (.parameters, .rawParameters)]

end Grammar

/-- Why a command line is not accepted. -/
inductive UsageError where
  /-- Help was asked for. -/
  | helpWanted
  /-- There are no arguments at all. -/
  | nothingGiven
  /-- There is no command. -/
  | commandMissing
  /-- A word in the place of a command names none. -/
  | commandUnknown
  /-- An option is not known, or there is one positional argument too many. -/
  | argumentUnknown
  /-- An option lacks its value, or the value is not one of those it can have. -/
  | valueInvalid
  /-- A value is not of the form that is needed. -/
  | valueMalformed
  /-- A flag has a value. -/
  | valueSurplus
  /-- An option is given twice, or together with one that excludes it. -/
  | conflict
  /-- An argument that is needed is missing. -/
  | argumentMissing
deriving DecidableEq, Repr

/-- The exit code for a command line that is not accepted. -/
def UsageError.exitCode : UsageError → Nat
  | .helpWanted => 0
  | _ => 2

end GraphSelect
