import GraphSelect.Command.Arguments

/-!
# Invocations

An invocation is what a command line asks for: a command with its settings, and
how much is logged. `Invocation.parse` reads it from the arguments.
-/

set_option autoImplicit false

namespace GraphSelect

/-- Where a selector is taken from. The text counts before the path. -/
structure SelectorSource where
  path : Option String := none
  text : Option String := none
deriving DecidableEq, Repr

/-- The settings of the command that renders a named operation. -/
structure QuerySettings where
  source : SelectorSource
  name : String
  /-- The text of a JSON value. -/
  parameters : Option String := none
  rawParameters : Option String := none
  strict : Bool := false
  color : ColorChoice := .auto
deriving DecidableEq, Repr

/-- The settings of the command that compiles a selector. -/
structure SelectSettings where
  source : SelectorSource
  unit : String := ""
  included : List String := []
  depth : Nat := 0
  strict : Bool := false
  color : ColorChoice := .auto
deriving DecidableEq, Repr

/-- The settings of the command that joins fragments. -/
structure FragmentsSettings where
  texts : List String
  strict : Bool := false
  color : ColorChoice := .auto
deriving DecidableEq, Repr

/-- The settings of the command that checks a selector. -/
structure CheckSettings where
  source : SelectorSource
  color : ColorChoice := .auto
deriving DecidableEq, Repr

/-- A command with its settings. -/
inductive Command where
  | query (settings : QuerySettings)
  | select (settings : SelectSettings)
  | fragments (settings : FragmentsSettings)
  | check (settings : CheckSettings)
deriving DecidableEq, Repr

/-- The name of a command. -/
def Command.name : Command → CommandName
  | query _ => .query
  | select _ => .select
  | fragments _ => .fragments
  | check _ => .check

/-- What a command line asks for. -/
structure Invocation where
  command : Command
  /-- How often logging was asked for. -/
  verbosity : Nat := 0
deriving DecidableEq, Repr

namespace Collected

/-- Where the selector is taken from. -/
def source (collected : Collected) : SelectorSource :=
  ⟨collected.valueOf? .selectorPath, collected.valueOf? .selectorText⟩

/-- When diagnostics are colored. -/
def color (collected : Collected) : ColorChoice :=
  ((collected.valueOf? .color).bind ColorChoice.ofText?).getD .auto

/-- The names that are included: a list with commas, of which empty parts are dropped. -/
def included (collected : Collected) : List String :=
  (((collected.valueOf? .included).map fun names => names.splitOn ",").getD []).filter
    fun name => !name.isEmpty

/-- The command with the settings that were given. -/
def command (collected : Collected) : CommandName → Command
  | .query =>
    .query {
      source := collected.source
      name := (collected.valueOf? .name).getD ""
      parameters := collected.valueOf? .parameters
      rawParameters := collected.valueOf? .rawParameters
      strict := collected.has .strict
      color := collected.color }
  | .select =>
    .select {
      source := collected.source
      unit := (collected.valueOf? .indent).getD ""
      included := collected.included
      depth := ((collected.valueOf? .depth).bind depth?).getD 0
      strict := collected.has .strict
      color := collected.color }
  | .fragments =>
    .fragments {
      texts := collected.valuesOf .fragments
      strict := collected.has .strict
      color := collected.color }
  | .check => .check { source := collected.source, color := collected.color }

end Collected

namespace Invocation

/-- The command line ends without a command. -/
def ended (before : Collected) : UsageError :=
  if before.verbosity = 0 then .nothingGiven else .commandMissing

/-- A word that names a command, or asks for help on one. -/
def isCommandWord (word : String) : Bool :=
  word = helpWord || (CommandName.ofText? word).isSome

/-- Help is asked for, perhaps on a command. -/
def help : List String → UsageError
  | [] => .helpWanted
  | [word] => if isCommandWord word then .helpWanted else .commandUnknown
  | _ => .commandUnknown

/-- The command line goes on after a pair of hyphens, where no command is expected. -/
def afterHyphens (before : Collected) : List String → UsageError
  | [] => ended before
  | word :: _ => if isCommandWord word then .argumentUnknown else .commandUnknown

/-- The verbosity: what is asked for after the command counts before the rest. -/
def verbosityOf (before after : Collected) : Nat :=
  if after.verbosity = 0 then before.verbosity else after.verbosity

/-- The invocation when `before` has been read in front of the command. -/
def parseFrom (before : Collected) : List String → Except UsageError Invocation
  | [] => .error (ended before)
  | argument :: rest =>
    if argument = "--" then .error (afterHyphens before rest)
    else if argument = helpWord then .error (help rest)
    else
      match CommandName.ofText? argument with
      | some name => do
        let after ← Collected.ofArguments name rest
        return ⟨after.command name, verbosityOf before after⟩
      | none =>
        match before.option? .ofProgram argument with
        | some read => do
          let next ← read
          parseFrom next rest
        | none => .error .commandUnknown

/-- What a command line asks for. -/
def parse (arguments : List String) : Except UsageError Invocation :=
  parseFrom {} arguments

end Invocation

end GraphSelect
