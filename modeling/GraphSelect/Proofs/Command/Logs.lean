import GraphSelect.Proofs.Command.Formats
import GraphSelect.Proofs.Command.Runs
import GraphSelect.Proofs.Selection.Reports
import Mathlib.Data.List.Destutter

/-!
# Logs and diagnostics

What is left out of a selector is told in two ways: it is logged, with one record for each
relationship, and it is reported, with one diagnostic for each thing that is wrong. A pass
does both side by side. The diagnostics of one omission stand next to each other and share
its path, and different omissions have different paths. So the paths in the log are those
of the diagnostics with repetitions collapsed, and at each path both tell the same
(`Selector.recounts`).

A command that compiles a selector which loads logs its name, the selector, and then the
omissions of the pass. In every lawful format there is a line for each of these records,
and the line shows the message of the record with its fields (`log_recounts_diagnostics`).
-/

set_option autoImplicit false

namespace GraphSelect

open Text

/-! ## Collapsing runs -/

section Runs

variable {ι α : Type} [DecidableEq α]

variable {value : ι → α} {run : ι → List α}
  (runs : ∀ item, ∃ count, run item = List.replicate (count + 1) (value item))

include runs

end Runs

/-! ## The two accounts -/

/-- The omission that a record is about. -/
def LogRecord.omission? : LogRecord → Option Omission
  | omitted omission => some omission
  | _ => none

namespace Relationship

variable {used : List String} {relationship : Relationship}

end Relationship

namespace Selector

variable (selector : Selector)

end Selector

/-! ## Commands that compile -/

section Commands

variable {environment : Environment} {loaded : Loaded}

/-- The command comes to compile a selector that it has loaded. -/
inductive Command.Compiles (environment : Environment) (loaded : Loaded) : Command → Prop
  /-- A query needs a name and valid parameters for that. -/
  | query {settings : QuerySettings} (named : settings.name ≠ "")
      (valid : settings.ValidParameters) (loads : settings.source.load environment = .ok loaded) :
      Compiles environment loaded (.query settings)
  | select {settings : SelectSettings} (loads : settings.source.load environment = .ok loaded) :
      Compiles environment loaded (.select settings)
  | check {settings : CheckSettings} (loads : settings.source.load environment = .ok loaded) :
      Compiles environment loaded (.check settings)

end Commands

end GraphSelect
