import GraphSelect.Command.Source
import GraphSelect.Diagnostic.Printer
import GraphSelect.Operation.Builder

/-!
# Running commands

A command gives a report: what it logs, what it writes to the two output streams,
and its exit code. An invocation turns the report into what can be seen. The log
stands before the other output on the error stream, and only when it was asked
for.
-/

set_option autoImplicit false

namespace GraphSelect

/-- What a command does. -/
structure Report where
  log : List LogRecord := []
  output : String := ""
  errors : String := ""
  exitCode : Nat := 0
deriving DecidableEq, Repr

/-- What can be seen of a run. -/
structure Outcome where
  output : String
  errors : String
  exitCode : Nat
deriving DecidableEq, Repr

/-- The codes for a choice of colors. When the choice is left open, a terminal has colors. -/
def ColorChoice.colors (terminal : Bool) : ColorChoice → Colors
  | auto => .ofBool terminal
  | always => .on
  | never => .off

namespace Report

/-- A command that fails with a message. -/
def failure (message : String) : Report :=
  { errors := "error: " ++ message ++ "\n", exitCode := 1 }

/-- A command that gives a text or is refused. -/
def ofResult (colors : Colors) : Except Rejection String → Report
  | .ok text => { output := text ++ "\n" }
  | .error rejection => { errors := rejection.diagnostics.render colors true, exitCode := 1 }

/-- The report with records before its log. -/
def logging (records : List LogRecord) (report : Report) : Report :=
  { report with log := records ++ report.log }

end Report

/-- The record of a selector that was loaded. -/
def Loaded.record (loaded : Loaded) : LogRecord :=
  .loaded loaded.origin loaded.selector.relationships.length loaded.selector.depth

/-- Loads a selector and goes on with it. -/
def SelectorSource.use (environment : Environment) (source : SelectorSource)
    (go : Selector → Report) : Report :=
  match source.load environment with
  | .error error => .failure error.message
  | .ok loaded => (go loaded.selector).logging [loaded.record]

/-- The text without the line ends at its end. -/
def trimLineEnds (text : String) : String :=
  .ofList (text.toList.reverse.dropWhile (· == '\n')).reverse

namespace QuerySettings

/-- The builder of the operation, or the error in the text of its parameters. -/
def builder (settings : QuerySettings) (selector : Selector) : Except JsonError QueryBuilder :=
  let start : QueryBuilder :=
    { name := settings.name, selector, policy := .ofStrict settings.strict }
  match settings.parameters, settings.rawParameters with
  | some text, _ => (Json.parse text).map fun value => start.withValue value.canonical
  | none, some text => .ok (start.withRaw text)
  | none, none => .ok start

/-- Renders a named operation. -/
def run (environment : Environment) (settings : QuerySettings) : Report :=
  if settings.name.isEmpty then .failure "operation name cannot be empty"
  else
    settings.source.use environment fun selector =>
      match settings.builder selector with
      | .error error => .failure ("invalid --params JSON: " ++ error.message)
      | .ok builder =>
        (Report.ofResult (settings.color.colors environment.terminal) builder.build).logging
          selector.omissionRecords

end QuerySettings

namespace SelectSettings

/-- The options of the compilation. -/
def options (settings : SelectSettings) : CompileOptions :=
  ⟨settings.included, settings.unit, settings.depth⟩

/-- Compiles a selector. -/
def run (environment : Environment) (settings : SelectSettings) : Report :=
  settings.source.use environment fun selector =>
    let text := trimLineEnds (selector.compile settings.options)
    (Report.ofResult (settings.color.colors environment.terminal)
      ((Policy.ofStrict settings.strict).check selector.diagnostics text)).logging
        selector.omissionRecords

end SelectSettings

/-- Joins fragments. -/
def FragmentsSettings.run (environment : Environment) (settings : FragmentsSettings) : Report :=
  .ofResult (settings.color.colors environment.terminal)
    (assemble (.ofStrict settings.strict) (settings.texts.map .text))

/-- Checks a selector. Nothing is written when nothing is left out. -/
def CheckSettings.run (environment : Environment) (settings : CheckSettings) : Report :=
  settings.source.use environment fun selector =>
    let diagnostics := selector.diagnostics
    Report.logging selector.omissionRecords
      (if diagnostics.isEmpty then {}
      else
        { errors :=
            diagnostics.render (settings.color.colors environment.terminal) true ++ "\n" ++
              diagnostics.tally ++ "\n"
          exitCode := 1 })

/-- What a command does, with everything that it logs. -/
def Command.run (environment : Environment) (command : Command) : Report :=
  Report.logging [.dispatching command.name.text]
    (match command with
      | query settings => settings.run environment
      | select settings => settings.run environment
      | fragments settings => settings.run environment
      | check settings => settings.run environment)

namespace Report

/-- The lines of the log. -/
def logLines (format : LogFormat) (report : Report) : List String :=
  format.lines 0 (report.log.map LogRecord.entry)

/-- What can be seen of a report apart from its log. -/
def quiet (report : Report) : Outcome := ⟨report.output, report.errors, report.exitCode⟩

/-- What can be seen of a report at a verbosity. -/
def outcome (format : LogFormat) (verbosity : Nat) (report : Report) : Outcome :=
  { report.quiet with
    errors :=
      if verbosity = 0 then report.errors
      else String.join (report.logLines format) ++ report.errors }

end Report

/-- What can be seen of an invocation. -/
def Invocation.run (environment : Environment) (invocation : Invocation) : Outcome :=
  (invocation.command.run environment).outcome environment.format invocation.verbosity

end GraphSelect
