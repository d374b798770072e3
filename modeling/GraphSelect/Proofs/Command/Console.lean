import GraphSelect.Proofs.Command.Formats
import GraphSelect.Proofs.Selection.Pass
import GraphSelect.Proofs.Selection.Reach

/-!
# Logging while a command goes on

A console is what a run has written to its two streams so far. A command is performed on
a console step by step, and an event is logged at the moment when it comes up: when the
command starts, when its selector is loaded, when a pass leaves a relationship out, when a
call is classified. Whether an event shows is decided there, by the verbosity of the
console, and its line is written in the format of the console.

A command that is performed on a console leaves there what its report says, the log in
front (`Command.perform_eq`). The text of an answer, its diagnostics and the exit code do
not depend on what was logged, and nothing is logged behind them. So two runs that differ
in the verbosity and in how the log is written differ in whole lines at the start of the
error stream (`verbosity_does_not_interfere`).
-/

set_option autoImplicit false

namespace GraphSelect

open Text

/-! ## Events -/

/-- What a run can log: the records of a command, and what becomes of a call. -/
inductive LogEvent where
  | noted (record : LogRecord)
  /-- A call is a named operation, which uses some of its arguments. -/
  | operation (arguments used : Nat)
  /-- A call looks like a named operation and is none. -/
  | unrecognized (sorts : List String)

/-- What is told of an event. -/
def LogEvent.entry : LogEvent → LogEntry
  | .noted record => record.entry
  | .operation arguments used =>
    ⟨.trace, "classified as named operation",
      [("args", .number arguments), ("used", .number used)]⟩
  | .unrecognized sorts =>
    ⟨.debug, "unrecognized call shape, rendering fragments", [("shape", .list sorts)]⟩

/-- Nothing in an event takes effect on a terminal. -/
theorem LogEvent.printable_entry (event : LogEvent) : event.entry.IsPrintable := by
  cases event with
  | noted record => exact record.printable_entry
  | operation arguments used =>
      exact LogEntry.printable_of_fields ["args", "used"] (by decide) rfl (by simp)
  | unrecognized sorts => exact LogEntry.printable_of_fields ["shape"] (by decide) rfl (by simp)

/-- What is logged when a call is classified. -/
def Request.classifyEvents (arguments : List Argument) : List LogEvent :=
  match named? arguments with
  | some (_, used) => [.operation arguments.length used]
  | none =>
    if looksNamed arguments then [.unrecognized (arguments.map Argument.describe)] else []

/-- Nothing is logged of a call that has texts only. -/
theorem Request.classifyEvents_texts (texts : List String) :
    classifyEvents (texts.map .text) = [] := by
  match texts with
  | [] => rfl
  | [name] => rfl
  | name :: second :: rest =>
      simp only [classifyEvents, List.map_cons, named?, looksNamed, Argument.isText, ite_self,
        Bool.not_true, Bool.false_eq_true, if_false]

/-! ## Consoles -/

/-- How much is logged and how, and what has been written to the two streams. -/
structure Console where
  verbosity : Nat
  format : LogFormat
  /-- The number of lines in the log so far. -/
  logged : Nat := 0
  output : String := ""
  errors : String := ""

namespace Console

/-- Logs an event, if the verbosity is high enough. -/
def log (console : Console) (event : LogEvent) : Console :=
  if event.entry.level.leastVerbosity ≤ console.verbosity then
    { console with
      logged := console.logged + 1
      errors := console.errors ++ console.format.line console.logged event.entry }
  else console

/-- Logs events one after the other. -/
def logAll (console : Console) (events : List LogEvent) : Console := events.foldl log console

/-- Writes to the output stream. -/
def print (console : Console) (text : String) : Console :=
  { console with output := console.output ++ text }

/-- Writes to the error stream. -/
def complain (console : Console) (text : String) : Console :=
  { console with errors := console.errors ++ text }

/-- Ends with a message. -/
def fail (console : Console) (message : String) : Console × Nat :=
  (console.complain ("error: " ++ message ++ "\n"), 1)

/-- Ends with an answer. -/
def answer (console : Console) (colors : Colors) : Except Rejection String → Console × Nat
  | .ok text => (console.print (text ++ "\n"), 0)
  | .error rejection => (console.complain (rejection.diagnostics.render colors true), 1)

/-- Loads a selector and goes on with it. -/
def load (console : Console) (environment : Environment) (source : SelectorSource)
    (go : Selector → Console → Console × Nat) : Console × Nat :=
  match source.load environment with
  | .error error => console.fail error.message
  | .ok loaded => go loaded.selector (console.log (.noted loaded.record))

/-- Compiles a selector. What the pass notes in its journal is logged as it goes on. -/
def compile (console : Console) (options : CompileOptions) (selector : Selector) :
    Console × String × Diagnostics :=
  let (text, journal) := selector.compileReporting options
  (console.logAll (journal.log.map .noted), text, journal.diagnostics)

end Console

/-! ## Performing commands -/

/-- Renders a named operation. -/
def QuerySettings.perform (environment : Environment) (settings : QuerySettings)
    (console : Console) : Console × Nat :=
  if settings.name.isEmpty then console.fail "operation name cannot be empty"
  else
    console.load environment settings.source fun selector console =>
      match settings.builder selector with
      | .error error => console.fail ("invalid --params JSON: " ++ error.message)
      | .ok builder =>
        let (console, _) := console.compile { depth := selectionDepth } selector
        console.answer (settings.color.colors environment.terminal) builder.build

/-- Compiles a selector. -/
def SelectSettings.perform (environment : Environment) (settings : SelectSettings)
    (console : Console) : Console × Nat :=
  console.load environment settings.source fun selector console =>
    let (console, text, diagnostics) := console.compile settings.options selector
    console.answer (settings.color.colors environment.terminal)
      ((Policy.ofStrict settings.strict).check diagnostics (trimLineEnds text))

/-- Joins fragments. -/
def FragmentsSettings.perform (environment : Environment) (settings : FragmentsSettings)
    (console : Console) : Console × Nat :=
  let arguments := settings.texts.map Argument.text
  (console.logAll (Request.classifyEvents arguments)).answer
    (settings.color.colors environment.terminal) (assemble (.ofStrict settings.strict) arguments)

/-- Checks a selector. -/
def CheckSettings.perform (environment : Environment) (settings : CheckSettings)
    (console : Console) : Console × Nat :=
  console.load environment settings.source fun selector console =>
    let (console, _, diagnostics) := console.compile {} selector
    if diagnostics.isEmpty then (console, 0)
    else
      let colors := settings.color.colors environment.terminal
      (((console.complain (diagnostics.render colors true)).complain "\n").complain
        (diagnostics.tally ++ "\n"), 1)

/-- Performs a command. -/
def Command.perform (environment : Environment) (command : Command) (console : Console) :
    Console × Nat :=
  let console := console.log (.noted (.dispatching command.name.text))
  match command with
  | query settings => settings.perform environment console
  | select settings => settings.perform environment console
  | fragments settings => settings.perform environment console
  | check settings => settings.perform environment console

/-- What can be seen of an invocation once it has been performed. -/
def Invocation.perform (environment : Environment) (invocation : Invocation) : Outcome :=
  let (console, exitCode) :=
    invocation.command.perform environment
      { verbosity := invocation.verbosity, format := environment.format }
  ⟨console.output, console.errors, exitCode⟩

/-! ## What is left on a console -/

namespace Console

/-- **Logging adds a line that shows the event, or nothing.** -/
theorem log_cases (console : Console) (lawful : console.format.Lawful) (event : LogEvent) :
    console.log event = console ∨
      ∃ line, event.entry.IsShownBy line ∧
        console.log event =
          { console with logged := console.logged + 1, errors := console.errors ++ line } := by
  unfold log
  split
  · exact .inr ⟨_, lawful console.logged event.entry event.printable_entry, rfl⟩
  · exact .inl rfl

/-- The lines of records that are logged next. -/
def linesOf (console : Console) (records : List LogRecord) : List String :=
  if console.verbosity = 0 then []
  else console.format.lines console.logged (records.map LogRecord.entry)

/-- The console with everything that a report has, the log in front. -/
def finish (console : Console) (report : Report) : Console × Nat :=
  ({ console with
      logged := console.logged + (console.linesOf report.log).length
      output := console.output ++ report.output
      errors := console.errors ++ (String.join (console.linesOf report.log) ++ report.errors) },
    report.exitCode)

/-- Records show as soon as anything is logged. -/
theorem leastVerbosity_record (record : LogRecord) : record.entry.level.leastVerbosity = 1 := by
  obtain _ | _ | ⟨_, _ | _⟩ := record <;> rfl

/-- A record that is logged first comes first in the log of a report. -/
theorem finish_log (console : Console) (record : LogRecord) (report : Report) :
    (console.log (.noted record)).finish report = console.finish (report.logging [record]) := by
  have shows : (LogEvent.noted record).entry.level.leastVerbosity ≤ console.verbosity ↔
      console.verbosity ≠ 0 := by
    rw [LogEvent.entry, leastVerbosity_record]
    exact Nat.one_le_iff_ne_zero
  by_cases quiet : console.verbosity = 0
  · rw [log, if_neg fun shown => shows.mp shown quiet]
    simp only [finish, linesOf, if_pos quiet, Report.logging]
  · rw [log, if_pos (shows.mpr quiet)]
    simp only [finish, linesOf, if_neg quiet, Report.logging, List.singleton_append,
      List.map_cons, LogFormat.lines_cons, List.length_cons, String.join_cons, LogEvent.entry,
      String.append_assoc, Nat.add_assoc, Nat.add_comm 1]

theorem finish_logAll (console : Console) (records : List LogRecord) (report : Report) :
    (console.logAll (records.map .noted)).finish report =
      console.finish (report.logging records) := by
  induction records generalizing console with
  | nil => rfl
  | cons record rest ih =>
      have logged : console.logAll ((record :: rest).map .noted) =
          (console.log (.noted record)).logAll (rest.map .noted) := rfl
      rw [logged, ih, finish_log]
      simp only [Report.logging, List.cons_append, List.nil_append]

/-- A report that has no log leaves its texts on the two streams. -/
theorem finish_written (console : Console) (output errors : String) (exitCode : Nat) :
    console.finish { output, errors, exitCode } =
      ((console.print output).complain errors, exitCode) := by
  simp only [finish, linesOf, print, complain, List.map_nil, LogFormat.lines_nil, ite_self,
    String.join_nil, List.length_nil, Nat.add_zero, String.empty_append]

theorem print_empty (console : Console) : console.print "" = console := by
  rw [print, String.append_empty]

theorem complain_empty (console : Console) : console.complain "" = console := by
  rw [complain, String.append_empty]

theorem complain_append (console : Console) (first second : String) :
    console.complain (first ++ second) = (console.complain first).complain second := by
  simp only [complain, String.append_assoc]

theorem fail_eq (console : Console) (message : String) :
    console.fail message = console.finish (.failure message) := by
  rw [Report.failure, finish_written, print_empty, fail]

theorem answer_eq (console : Console) (colors : Colors) (result : Except Rejection String) :
    console.answer colors result = console.finish (.ofResult colors result) := by
  cases result with
  | ok text => rw [answer, Report.ofResult, finish_written, complain_empty]
  | error rejection => rw [answer, Report.ofResult, finish_written, print_empty]

/-- When going on leaves what a report says, so does loading the selector first. -/
theorem load_eq (console : Console) (environment : Environment) (source : SelectorSource)
    {go : Selector → Console → Console × Nat} {report : Selector → Report}
    (goes : ∀ selector console, go selector console = console.finish (report selector)) :
    console.load environment source go = console.finish (source.use environment report) := by
  rw [load, SelectorSource.use]
  cases source.load environment with
  | error error => exact console.fail_eq _
  | ok loaded =>
      simp only
      rw [goes, finish_log]

/-- A pass logs the omissions of the selector and gives its text and diagnostics. -/
theorem compile_eq (console : Console) (options : CompileOptions) (selector : Selector) :
    console.compile options selector =
      (console.logAll (selector.omissionRecords.map .noted), selector.compile options,
        selector.diagnostics) := by
  rw [compile, Selector.compileReporting_eq]

end Console

theorem QuerySettings.perform_eq (environment : Environment) (settings : QuerySettings)
    (console : Console) :
    settings.perform environment console = console.finish (settings.run environment) := by
  unfold perform run
  split
  · exact console.fail_eq _
  · refine console.load_eq environment settings.source fun selector console => ?_
    cases settings.builder selector with
    | error error => exact console.fail_eq _
    | ok builder =>
        rw [Console.compile_eq, ← Console.finish_logAll]
        exact Console.answer_eq _ _ _

theorem SelectSettings.perform_eq (environment : Environment) (settings : SelectSettings)
    (console : Console) :
    settings.perform environment console = console.finish (settings.run environment) := by
  refine console.load_eq environment settings.source fun selector console => ?_
  rw [Console.compile_eq, ← Console.finish_logAll]
  exact Console.answer_eq _ _ _

theorem FragmentsSettings.perform_eq (environment : Environment) (settings : FragmentsSettings)
    (console : Console) :
    settings.perform environment console = console.finish (settings.run environment) := by
  rw [perform, Request.classifyEvents_texts]
  exact console.answer_eq _ _

theorem CheckSettings.perform_eq (environment : Environment) (settings : CheckSettings)
    (console : Console) :
    settings.perform environment console = console.finish (settings.run environment) := by
  refine console.load_eq environment settings.source fun selector console => ?_
  rw [Console.compile_eq, ← Console.finish_logAll]
  simp only
  split
  · rw [Console.finish_written, Console.print_empty, Console.complain_empty]
  · simp only [Console.finish_written, Console.print_empty, Console.complain_append]

/-- **A command that is performed on a console leaves there what its report says.** -/
theorem Command.perform_eq (environment : Environment) (command : Command) (console : Console) :
    command.perform environment console = console.finish (command.run environment) := by
  rw [run.eq_def, ← Console.finish_log]
  cases command with
  | query settings => exact settings.perform_eq environment _
  | select settings => exact settings.perform_eq environment _
  | fragments settings => exact settings.perform_eq environment _
  | check settings => exact settings.perform_eq environment _

theorem Invocation.perform_eq (environment : Environment) (invocation : Invocation) :
    invocation.perform environment = invocation.run environment := by
  rw [perform, Command.perform_eq, run, Report.outcome]
  simp only [Console.finish, Console.linesOf, Report.quiet, Report.logLines, String.empty_append]
  split
  · rw [String.join_nil, String.empty_append]
  · rfl

/-! ## Verbosity -/

namespace Outcome

/-- A run at a verbosity shows what the quiet run shows, and in front the lines of its log. -/
structure LogsBefore (log : List LogRecord) (verbosity : Nat) (quiet shown : Outcome) : Prop where
  output_eq : shown.output = quiet.output
  exitCode_eq : shown.exitCode = quiet.exitCode
  /-- The error stream starts with a line for each record. A quiet run logs nothing. -/
  errors_eq : ∃ lines, LogRecord.AllShownBy (if verbosity = 0 then [] else log) lines ∧
    shown.errors = String.join lines ++ quiet.errors

end Outcome

/-- What is seen of a report at a verbosity is the quiet outcome behind the log. -/
theorem Report.logsBefore {format : LogFormat} (lawful : format.Lawful) (report : Report)
    (verbosity : Nat) :
    report.quiet.LogsBefore report.log verbosity (report.outcome format verbosity) := by
  by_cases silent : verbosity = 0
  · refine ⟨rfl, rfl, [], ?_, ?_⟩
    · rw [if_pos silent]
      exact .nil
    · rw [String.join_nil, String.empty_append, outcome, if_pos silent]
      rfl
  · refine ⟨rfl, rfl, report.logLines format, ?_, ?_⟩
    · rw [if_neg silent]
      exact lawful.allShownBy_lines 0 report.log
    · rw [outcome, if_neg silent]
      rfl

/-- How the log is written does not show in the report of a command. -/
theorem Command.run_format (environment : Environment) (format : LogFormat) (command : Command) :
    command.run { environment with format } = command.run environment := by
  cases command <;> rfl

/-- **Verbosity does not interfere.** Two runs of a command on the same files and the same
input that differ in the verbosity, and in how the log is written, write the same to the
output stream and end with the same exit code. On the error stream each writes a line for
every record of the log, none when it is quiet, and behind them what the quiet run writes.
The runs are those of commands that log while they go on, and they show what the reports
of the commands say. -/
theorem verbosity_does_not_interfere (environment : Environment) {format format' : LogFormat}
    (lawful : format.Lawful) (lawful' : format'.Lawful) (command : Command)
    (verbosity verbosity' : Nat) :
    let performed (format : LogFormat) (level : Nat) :=
      Invocation.perform { environment with format } ⟨command, level⟩
    let quiet := performed format 0
    let log := (command.run environment).log
    (performed format verbosity).output = (performed format' verbosity').output ∧
      (performed format verbosity).exitCode = (performed format' verbosity').exitCode ∧
      quiet.LogsBefore log verbosity (performed format verbosity) ∧
      quiet.LogsBefore log verbosity' (performed format' verbosity') ∧
      performed format verbosity =
        Invocation.run { environment with format } ⟨command, verbosity⟩ ∧
      performed format' verbosity' =
        Invocation.run { environment with format := format' } ⟨command, verbosity'⟩ := by
  intro performed quiet log
  have reported : ∀ format level,
      performed format level = (command.run environment).outcome format level := by
    intro format level
    rw [← command.run_format environment format]
    exact Invocation.perform_eq _ _
  have silent : quiet = (command.run environment).quiet := reported format 0
  have logged : ∀ {format : LogFormat}, format.Lawful → ∀ level,
      quiet.LogsBefore log level (performed format level) := by
    intro format lawful level
    rw [silent, reported format level]
    exact (command.run environment).logsBefore lawful level
  have first := logged lawful verbosity
  have second := logged lawful' verbosity'
  exact ⟨first.output_eq.trans second.output_eq.symm,
    first.exitCode_eq.trans second.exitCode_eq.symm, first, second,
    Invocation.perform_eq _ _, Invocation.perform_eq _ _⟩

/-- A check of a selector with two relationships, the first of which has no keys. -/
def partialCheck : Command :=
  .check { source := ⟨none, some ("\x7b\"relationships\": [\x7b\x7d, " ++
    "\x7b\"keyId\": \"id\", \"keyValue\": \"owner\"\x7d]\x7d")⟩ }

/-- Nothing can be read here. -/
def bareEnvironment : Environment where
  file _ := .error .missing
  input := .error .missing

theorem verbosity_does_not_interfere_clocks :
    let performed (minute : String) (level : Nat) :=
      Invocation.perform { bareEnvironment with format := .timed (LogFormat.clock minute) }
        ⟨partialCheck, level⟩
    let log := (partialCheck.run bareEnvironment).log
    (LogFormat.timed (LogFormat.clock "08:30")).Lawful ∧
      (LogFormat.timed (LogFormat.clock "21:45")).Lawful ∧
      (performed "08:30" 1).output = (performed "21:45" 3).output ∧
      (performed "08:30" 1).exitCode = (performed "21:45" 3).exitCode ∧
      (performed "08:30" 0).LogsBefore log 1 (performed "08:30" 1) ∧
      (performed "08:30" 0).LogsBefore log 3 (performed "21:45" 3) ∧
      log = [.dispatching "check", .loaded "<inline>" 2 1, .omitted ⟨[0], .missingKeys .both⟩] ∧
      (performed "08:30" 0).exitCode = 1 := by
  intro performed log
  have morning := LogFormat.lawful_clock (by decide : Inline "08:30")
  have evening := LogFormat.lawful_clock (by decide : Inline "21:45")
  obtain ⟨output, exitCode, first, second, -, -⟩ :=
    verbosity_does_not_interfere bareEnvironment morning evening partialCheck 1 3
  have logged : log = [.dispatching "check", .loaded "<inline>" 2 1,
      .omitted ⟨[0], .missingKeys .both⟩] := by
    decide +kernel
  exact ⟨morning, evening, output, exitCode, first, second, logged, by decide +kernel⟩

end GraphSelect
