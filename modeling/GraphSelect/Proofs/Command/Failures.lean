import GraphSelect.Proofs.Command.Runs

/-!
# Commands that fail

A command has many ways to fail, and each of them leaves the output stream alone. What a
report must keep to is said once (`Report.KeepsStreams`): with the exit code 1 nothing is
on the output stream and something on the error stream, and with the exit code 0 nothing
is on the error stream. A failure with a message keeps to this, and so does every result
of a policy, because a rejection has a diagnostic. Loading a selector and logging do not
change it. So all commands keep to it (`Command.keepsStreams_run`), with all files and
every input.

A query can have several faults at once: an empty name, a selector that does not load, and
parameters that are no JSON. `QuerySettings.faults` finds each of them on its own. Only the
first one is reported (`QuerySettings.run_of_faults`).
-/

set_option autoImplicit false

namespace GraphSelect

open Text

/-! ## Reports that keep to their streams -/

/-- With the exit code 1 only the error stream is written to, and with the code 0 only the
output stream, which shows what it should. There is no other exit code. -/
structure Report.KeepsStreams (shows : String → Prop) (report : Report) : Prop where
  code : report.exitCode = 0 ∨ report.exitCode = 1
  failed : report.exitCode = 1 → report.output = "" ∧ report.errors ≠ ""
  succeeded : report.exitCode = 0 → shows report.output ∧ report.errors = ""

theorem Text.EndsLine.ne_empty {text : String} (ends : EndsLine text) : text ≠ "" := by
  obtain ⟨shown, rfl⟩ := ends
  intro empty
  simpa using congrArg String.toList empty

/-- A refused result has a diagnostic, and all of them are passed on. -/
theorem Policy.of_check_eq_error {policy : Policy} {diagnostics : Diagnostics} {text : String}
    {rejection : Rejection} (refused : policy.check diagnostics text = .error rejection) :
    diagnostics ≠ [] ∧ rejection = ⟨diagnostics⟩ := by
  cases policy with
  | lenient => cases refused
  | strict => exact check_strict_eq_error_iff.mp refused

namespace Report

variable {shows : String → Prop} {report : Report}

/-- A failure with a message writes a line to the error stream. -/
theorem keepsStreams_failure (message : String) : (failure message).KeepsStreams shows where
  code := .inr rfl
  failed _ := ⟨rfl, EndsLine.ne_empty ⟨"error: " ++ message, rfl⟩⟩
  succeeded succeeds := nomatch succeeds

/-- The log is not part of what a report writes. -/
theorem KeepsStreams.logging (keeps : report.KeepsStreams shows) (records : List LogRecord) :
    (report.logging records).KeepsStreams shows :=
  ⟨keeps.code, keeps.failed, keeps.succeeded⟩

/-- What a policy passes on is written with its line ended, and what it refuses is written
as diagnostics, of which there is one at least. -/
theorem keepsStreams_ofResult_check (colors : Colors) (policy : Policy)
    (diagnostics : Diagnostics) (text : String) :
    (ofResult colors (policy.check diagnostics text)).KeepsStreams EndsLine := by
  cases result : policy.check diagnostics text with
  | ok passed =>
      exact ⟨.inl rfl, fun fails => (nomatch fails), fun _ => ⟨⟨passed, rfl⟩, rfl⟩⟩
  | error rejection =>
      obtain ⟨some, rfl⟩ := Policy.of_check_eq_error result
      have errors : diagnostics.render colors true ≠ "" :=
        (Diagnostics.endsLine_render colors true some).ne_empty
      exact ⟨.inr rfl, fun _ => ⟨rfl, errors⟩, fun succeeds => nomatch succeeds⟩

end Report

/-! ## Commands -/

variable {environment : Environment}

/-- Loading a selector fails as a whole or goes on. -/
theorem SelectorSource.keepsStreams_use {shows : String → Prop} (source : SelectorSource)
    {go : Selector → Report} (keeps : ∀ selector, (go selector).KeepsStreams shows) :
    (source.use environment go).KeepsStreams shows := by
  unfold use
  split
  · exact Report.keepsStreams_failure _
  · exact (keeps _).logging _

theorem QuerySettings.keepsStreams_run (settings : QuerySettings) :
    (settings.run environment).KeepsStreams EndsLine := by
  unfold run
  split
  · exact Report.keepsStreams_failure _
  · apply SelectorSource.keepsStreams_use
    intro selector
    split
    · exact Report.keepsStreams_failure _
    · exact (Report.keepsStreams_ofResult_check _ _ _ _).logging _

theorem SelectSettings.keepsStreams_run (settings : SelectSettings) :
    (settings.run environment).KeepsStreams EndsLine := by
  apply SelectorSource.keepsStreams_use
  intro selector
  exact (Report.keepsStreams_ofResult_check _ _ _ _).logging _

theorem FragmentsSettings.keepsStreams_run (settings : FragmentsSettings) :
    (settings.run environment).KeepsStreams EndsLine :=
  Report.keepsStreams_ofResult_check _ _ _ _

/-- A check writes to the error stream or not at all. -/
theorem CheckSettings.keepsStreams_run (settings : CheckSettings) :
    (settings.run environment).KeepsStreams (· = "") := by
  apply SelectorSource.keepsStreams_use
  intro selector
  apply Report.KeepsStreams.logging
  split
  · exact ⟨.inl rfl, fun fails => (nomatch fails), fun _ => ⟨rfl, rfl⟩⟩
  · exact ⟨.inr rfl, fun _ => ⟨rfl, EndsLine.ne_empty ⟨_, rfl⟩⟩, fun succeeds => nomatch succeeds⟩

/-- What a successful command shows: nothing for a check, and whole lines for the others. -/
def CommandName.Shows : CommandName → String → Prop
  | .check => fun output => output = ""
  | _ => EndsLine

/-- **Every command keeps to its streams.** -/
theorem Command.keepsStreams_run (command : Command) :
    (command.run environment).KeepsStreams command.name.Shows := by
  apply Report.KeepsStreams.logging
  cases command with
  | query settings => exact settings.keepsStreams_run
  | select settings => exact settings.keepsStreams_run
  | fragments settings => exact settings.keepsStreams_run
  | check settings => exact settings.keepsStreams_run

/-! ## Faults of a query -/

/-- What can be wrong with a query before it is rendered. -/
inductive QueryFault where
  /-- The name is empty. -/
  | nameless
  /-- The selector does not load. -/
  | unloaded (error : LoadError)
  /-- The text of the parameters is no JSON. -/
  | unparsed (error : JsonError)
deriving DecidableEq

/-- The fault in words. -/
def QueryFault.message : QueryFault → String
  | nameless => "operation name cannot be empty"
  | unloaded error => error.message
  | unparsed error => "invalid --params JSON: " ++ error.message

namespace QuerySettings

/-- All faults of a query, each of them looked for on its own. -/
def faults (environment : Environment) (settings : QuerySettings) : List QueryFault :=
  (if settings.name = "" then [.nameless] else []) ++
    (match settings.source.load environment with
      | .error error => [.unloaded error]
      | .ok _ => []) ++
      match settings.parameters.map Json.parse with
      | some (.error error) => [.unparsed error]
      | _ => []

/-- **A query with faults fails with the first of them.** -/
theorem run_of_faults {settings : QuerySettings} {first : QueryFault} {rest : List QueryFault}
    (found : settings.faults environment = first :: rest) :
    ∃ records, settings.run environment = (Report.failure first.message).logging records := by
  unfold faults at found
  by_cases nameless : settings.name = ""
  · rw [if_pos nameless, List.append_assoc, List.singleton_append] at found
    obtain ⟨rfl, -⟩ := List.cons.inj found
    refine ⟨[], ?_⟩
    rw [run, if_pos (String.isEmpty_iff.mpr nameless)]
    rfl
  · have named : ¬settings.name.isEmpty = true := by rwa [String.isEmpty_iff]
    rw [if_neg nameless, List.nil_append] at found
    cases loads : settings.source.load environment with
    | error error =>
        rw [loads, List.singleton_append] at found
        obtain ⟨rfl, -⟩ := List.cons.inj found
        refine ⟨[], ?_⟩
        rw [run, if_neg named, SelectorSource.use, loads]
        rfl
    | ok loaded =>
        rw [loads, List.nil_append] at found
        split at found
        · next error parsed =>
            obtain ⟨rfl, -⟩ := List.cons.inj found
            obtain ⟨text, given, parsed⟩ := Option.map_eq_some_iff.mp parsed
            have built : settings.builder loaded.selector = .error error := by
              simp only [builder, given, parsed, Except.map]
            refine ⟨[loaded.record], ?_⟩
            rw [run, if_neg named, SelectorSource.use, loads]
            simp only [built]
            rfl
        · cases found

end QuerySettings

/-! ## What is seen of a failure -/

/-- **A failure never writes to the output stream.** Every invocation has the exit code 0
or 1, with all files and every input. With code 1 only the error stream is written to. With
code 0 a check shows nothing and the other commands show whole lines, and a quiet run
leaves the error stream empty. A query with faults has code 1, and behind the log there is
one line for the first of its faults. -/
theorem failure_keeps_output_empty (environment : Environment) :
    (∀ invocation : Invocation,
      ((invocation.run environment).exitCode = 0 ∨ (invocation.run environment).exitCode = 1) ∧
        ((invocation.run environment).exitCode = 1 →
          (invocation.run environment).output = "" ∧ (invocation.run environment).errors ≠ "") ∧
        ((invocation.run environment).exitCode = 0 →
          invocation.command.name.Shows (invocation.run environment).output ∧
            (invocation.verbosity = 0 → (invocation.run environment).errors = ""))) ∧
      ∀ (settings : QuerySettings) (verbosity : Nat) (first : QueryFault)
        (rest : List QueryFault), settings.faults environment = first :: rest →
          ∃ records : List LogRecord,
            Invocation.run environment ⟨.query settings, verbosity⟩ =
              ⟨"", (if verbosity = 0 then ""
                else String.join (environment.format.lines 0 (records.map LogRecord.entry))) ++
                ("error: " ++ first.message ++ "\n"), 1⟩ := by
  constructor
  · rintro ⟨command, verbosity⟩
    have keeps : (command.run environment).KeepsStreams command.name.Shows :=
      command.keepsStreams_run
    refine ⟨keeps.code, fun failed => ?_, fun succeeded => ?_⟩
    · obtain ⟨output, errors⟩ := keeps.failed failed
      refine ⟨output, ?_⟩
      simp only [Invocation.run, Report.outcome]
      split
      · exact errors
      · exact fun empty => errors (String.append_eq_empty_iff.mp empty).2
    · obtain ⟨shows, errors⟩ := keeps.succeeded succeeded
      refine ⟨shows, fun quiet => ?_⟩
      obtain rfl : verbosity = 0 := quiet
      exact errors
  · intro settings verbosity first rest found
    obtain ⟨records, report⟩ := QuerySettings.run_of_faults found
    refine ⟨.dispatching "query" :: records, ?_⟩
    rw [Invocation.run, Command.run, report]
    simp only [Report.outcome, Report.quiet, Report.logging, Report.logLines, Report.failure,
      Command.name, CommandName.text, List.append_nil, List.singleton_append]
    split
    · rw [String.empty_append]
    · rfl

/-- Nothing can be read here. -/
def unreadable : Environment where
  file _ := .error .directory
  input := .error .notText

/-- A query with every fault: it has no name, its selector comes from an input that is no
text, and its parameters end too early. -/
def faultyQuery : QuerySettings where
  source := ⟨some inputPath, none⟩
  name := ""
  parameters := some "\x7b"

/-- A fragment that is left open. -/
def openFragment (strict : Bool) : Invocation :=
  ⟨.fragments { texts := ["\x7b a"], strict }, 0⟩

theorem failure_keeps_output_empty_faulty :
    (faultyQuery.faults unreadable).map QueryFault.message =
        ["operation name cannot be empty",
          "failed to read stdin: stream did not contain valid UTF-8",
          "invalid --params JSON: EOF while parsing an object at line 1 column 1"] ∧
      Invocation.run unreadable ⟨.query faultyQuery, 0⟩ =
        ⟨"", "error: operation name cannot be empty\n", 1⟩ ∧
      (((openFragment true).run unreadable).exitCode = 1 ∧
        ((openFragment true).run unreadable).output = "" ∧
          ((openFragment true).run unreadable).errors ≠ "") ∧
      ((openFragment false).run unreadable).exitCode = 0 ∧
        EndsLine ((openFragment false).run unreadable).output ∧
          ((openFragment false).run unreadable).errors = "" := by
  have messages : (faultyQuery.faults unreadable).map QueryFault.message =
      ["operation name cannot be empty",
        "failed to read stdin: stream did not contain valid UTF-8",
        "invalid --params JSON: EOF while parsing an object at line 1 column 1"] := by
    decide +kernel
  have refused : ((openFragment true).run unreadable).exitCode = 1 := by decide
  have accepted : ((openFragment false).run unreadable).exitCode = 0 := by decide
  obtain ⟨streams, faulty⟩ := failure_keeps_output_empty unreadable
  refine ⟨messages, ?_, ⟨refused, (streams _).2.1 refused⟩, accepted, ?_⟩
  · cases found : faultyQuery.faults unreadable with
    | nil =>
        rw [found] at messages
        cases messages
    | cons first rest =>
        rw [found, List.map_cons] at messages
        obtain ⟨records, outcome⟩ := faulty faultyQuery 0 first rest found
        rw [outcome, (List.cons.inj messages).1, if_pos rfl]
        decide
  · obtain ⟨shows, errors⟩ := (streams _).2.2 accepted
    exact ⟨shows, errors rfl⟩

end GraphSelect
