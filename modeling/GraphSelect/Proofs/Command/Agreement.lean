import GraphSelect.Proofs.Command.Runs
import GraphSelect.Proofs.Json.Tree
import GraphSelect.Proofs.Operation.Building
import GraphSelect.Proofs.Selection.Pass

/-!
# Commands that agree on a selector

What is left out of a selector depends neither on the options of the compilation nor on
the operation that the selector stands in: a pass reports the same diagnostics with all
options, and a named operation has these diagnostics and no others.

So a check, a strict compilation and a strict query come to the same verdict on a selector,
whatever else they are asked for (`check_agrees_with_strict`). When they refuse it, the
check shows what the strict compilation shows, and the tally behind an empty line. All
diagnostics of a selector are warnings, so the tally counts them as such
(`Selector.tally_diagnostics`).
-/

set_option autoImplicit false

namespace GraphSelect

open Text

/-! ## Diagnostics -/

/-- A name and a selector have the diagnostics of the selector. -/
theorem assembleAll_named (name : String) (selector : Selector) :
    (assembleAll [.text name, .selector selector]).2 = selector.diagnostics :=
  congrArg Prod.snd (assembleAll_namedCall name selector none)

/-- A value between the name and the selector has no diagnostics, whatever it is. -/
theorem assembleAll_namedWith (name : String) (value : Json) (selector : Selector) :
    (assembleAll [.text name, .value value, .selector selector]).2 = selector.diagnostics :=
  congrArg Prod.snd (assembleAll_namedCall name selector (some value))

/-! ## The tally -/

/-- What is left out of a selector does not spoil the rest of it. -/
theorem Selector.severity_of_mem_diagnostics {selector : Selector} {diagnostic : Diagnostic}
    (member : diagnostic ∈ selector.diagnostics) : diagnostic.severity = .warning := by
  have lacking : ∀ missing : MissingKeys, ∀ kind ∈ missing.kinds, kind.severity = .warning := by
    intro missing
    cases missing <;> decide
  obtain ⟨⟨path, missing | field⟩, -, member⟩ := List.mem_flatMap.mp member
  · obtain ⟨kind, listed, rfl⟩ := List.mem_map.mp member
    exact lacking missing kind listed
  · rw [List.mem_singleton.mp member]
    rfl

namespace Diagnostics

/-- A number of warnings, in words. -/
def warningCount (number : Nat) : String :=
  number.repr ++ if number = 1 then " warning" else " warnings"

variable {diagnostics : Diagnostics}

section Warnings

variable (warnings : ∀ diagnostic ∈ diagnostics, diagnostic.severity = .warning)

include warnings

theorem countOf_warning : diagnostics.countOf .warning = diagnostics.length := by
  rw [countOf, List.countP_eq_length]
  exact fun diagnostic member => decide_eq_true (warnings diagnostic member)

theorem countOf_error : diagnostics.countOf .error = 0 := by
  rw [countOf, List.countP_eq_zero]
  intro diagnostic member
  rw [warnings diagnostic member]
  decide

/-- Warnings are summed up by their number. -/
theorem tally_eq (some : diagnostics ≠ []) :
    diagnostics.tally = "selector check found " ++ warningCount diagnostics.length := by
  have errors : diagnostics.countText? .error = none := by
    simp only [countText?, countOf_error warnings]
  have counted : diagnostics.countText? .warning = .some (warningCount diagnostics.length) := by
    unfold countText? warningCount
    rw [countOf_warning warnings]
    split
    · next none => exact absurd (List.length_eq_zero_iff.mp none) some
    · next one =>
      rw [one, if_pos rfl]
      decide
    · next several =>
      have word : " " ++ Severity.text .warning ++ "s" = " warnings" := by decide
      rw [if_neg several, ← word, String.append_assoc, String.append_assoc, String.append_assoc]
  have joined : " and ".intercalate
      ((diagnostics.countText? .error).toList ++ (diagnostics.countText? .warning).toList) =
      warningCount diagnostics.length := by
    rw [errors, counted]
    exact String.intercalate_singleton
  exact congrArg ("selector check found " ++ ·) joined

end Warnings

end Diagnostics

/-- **The tally of a selector counts the warnings.** -/
theorem Selector.tally_diagnostics {selector : Selector} (some : selector.diagnostics ≠ []) :
    selector.diagnostics.tally =
      "selector check found " ++ Diagnostics.warningCount selector.diagnostics.length :=
  Diagnostics.tally_eq (fun _ member => severity_of_mem_diagnostics member) some

/-! ## Verdicts -/

/-- A check, a compilation and a query come to the same verdict on a selector. -/
structure SameVerdict (selector : Selector) (checked compiled queried : Outcome) : Prop where
  /-- The check succeeds exactly when nothing is left out. -/
  checked_iff : checked.exitCode = 0 ↔ selector.diagnostics = []
  compiled_iff : checked.exitCode = 0 ↔ compiled.exitCode = 0
  queried_iff : compiled.exitCode = 0 ↔ queried.exitCode = 0
  /-- A failed check writes the lines of the compilation, an empty line, and a line with the
  number of the diagnostics, all of which are warnings. -/
  errors_eq : checked.exitCode ≠ 0 →
    EndsLine compiled.errors ∧
      (∀ diagnostic ∈ selector.diagnostics, diagnostic.severity = .warning) ∧
      checked.errors = compiled.errors ++ "\n" ++
        ("selector check found " ++ Diagnostics.warningCount selector.diagnostics.length) ++ "\n"

section Verdicts

variable {environment : Environment} {loaded : Loaded}

/-- A strict compilation fails exactly when something is left out. -/
theorem SelectSettings.quiet_run_strict {settings : SelectSettings}
    (loads : settings.source.load environment = .ok loaded) (strict : settings.strict = true) :
    (settings.run environment).quiet =
      if loaded.selector.diagnostics = [] then
        ⟨trimLineEnds (loaded.selector.compile settings.options) ++ "\n", "", 0⟩
      else
        let colors := settings.color.colors environment.terminal
        ⟨"", loaded.selector.diagnostics.render colors true, 1⟩ := by
  rw [quiet_run loads, strict]
  exact Report.quiet_ofResult_strict _ _ _

/-- A strict query with a name and valid parameters fails exactly when something is left
out of its selector. -/
theorem QuerySettings.quiet_run_strict {settings : QuerySettings} (named : settings.name ≠ "")
    (valid : settings.ValidParameters)
    (loads : settings.source.load environment = .ok loaded) (strict : settings.strict = true) :
    ∃ text, (settings.run environment).quiet =
      if loaded.selector.diagnostics = [] then ⟨text ++ "\n", "", 0⟩
      else
        let colors := settings.color.colors environment.terminal
        ⟨"", loaded.selector.diagnostics.render colors true, 1⟩ := by
  obtain ⟨parameters, built⟩ := exists_builder valid loaded.selector
  rw [strict] at built
  refine ⟨(Request.named settings.name parameters loaded.selector).text, ?_⟩
  rw [quiet_run named loads built]
  exact Report.quiet_ofResult_strict _ _ _

/-- **Commands on the same selector agree.** They read it from the same source and use the
same colors. Everything else that they are asked for may differ. -/
theorem sameVerdict_of_load {source : SelectorSource} (loads : source.load environment = .ok loaded)
    {checking : CheckSettings} {compiling : SelectSettings} {querying : QuerySettings}
    (sources : checking.source = source ∧ compiling.source = source ∧ querying.source = source)
    (colors : compiling.color = checking.color)
    (strict : compiling.strict = true ∧ querying.strict = true)
    (named : querying.name ≠ "") (valid : querying.ValidParameters) :
    SameVerdict loaded.selector (Invocation.run environment ⟨.check checking, 0⟩)
      (Invocation.run environment ⟨.select compiling, 0⟩)
      (Invocation.run environment ⟨.query querying, 0⟩) := by
  obtain ⟨checkSource, compileSource, querySource⟩ := sources
  have checked : Invocation.run environment ⟨.check checking, 0⟩ = _ :=
    CheckSettings.quiet_run (checkSource ▸ loads)
  have compiled : Invocation.run environment ⟨.select compiling, 0⟩ = _ :=
    SelectSettings.quiet_run_strict (compileSource ▸ loads) strict.1
  obtain ⟨text, asked⟩ :=
    QuerySettings.quiet_run_strict named valid (querySource ▸ loads) strict.2
  have queried : Invocation.run environment ⟨.query querying, 0⟩ = _ := asked
  rw [checked, compiled, queried, colors]
  by_cases none : loaded.selector.diagnostics = []
  · simp only [if_pos none]
    exact ⟨iff_of_true rfl none, Iff.rfl, Iff.rfl, fun failed => absurd rfl failed⟩
  · simp only [if_neg none]
    refine ⟨iff_of_false Nat.one_ne_zero none, Iff.rfl, Iff.rfl, fun _ => ⟨?_, ?_, ?_⟩⟩
    · exact Diagnostics.endsLine_render _ _ none
    · exact fun _ member => Selector.severity_of_mem_diagnostics member
    · rw [Selector.tally_diagnostics none]

end Verdicts

/-- **Diagnostics do not depend on how a selector is rendered, so the check and the strict
commands agree.** The options of a pass and the shape of a named call do not show in the
diagnostics. On a selector that loads, quiet runs of the three commands give the same
verdict with all options of the compilation, all names and all valid parameters. -/
theorem check_agrees_with_strict :
    (∀ (selector : Selector) (options options' : CompileOptions) (name : String) (value : Json),
      (selector.compileReporting options).2.diagnostics =
          (selector.compileReporting options').2.diagnostics ∧
        (assembleAll [.text name, .selector selector]).2 =
          (selector.compileReporting options).2.diagnostics ∧
        (assembleAll [.text name, .value value, .selector selector]).2 =
          (selector.compileReporting options).2.diagnostics) ∧
      ∀ (environment : Environment) (source : SelectorSource) (loaded : Loaded)
        (color : ColorChoice) (options : CompileOptions) (name : String)
        (parameters rawParameters : Option String),
        source.load environment = .ok loaded → name ≠ "" →
          (∀ text ∈ parameters, ∃ value, Json.parse text = .ok value) →
            SameVerdict loaded.selector
              (Invocation.run environment ⟨.check { source, color }, 0⟩)
              (Invocation.run environment ⟨.select {
                source, unit := options.unit, included := options.included
                depth := options.depth, strict := true, color }, 0⟩)
              (Invocation.run environment ⟨.query {
                source, name, parameters, rawParameters, strict := true, color }, 0⟩) := by
  constructor
  · intro selector options options' name value
    refine ⟨?_, ?_, ?_⟩
    · rw [selector.diagnostics_compileReporting, selector.diagnostics_compileReporting]
    · rw [assembleAll_named, selector.diagnostics_compileReporting]
    · rw [assembleAll_namedWith, selector.diagnostics_compileReporting]
  · intro environment source loaded color options name parameters rawParameters loads named valid
    exact sameVerdict_of_load loads ⟨rfl, rfl, rfl⟩ rfl ⟨rfl, rfl⟩ named valid

/-- A file with a selector, the relationship of which has no field. -/
def keylessEnvironment : Environment where
  file path :=
    if path = "keyless.json" then
      .ok "\x7b\"relationships\": [\x7b\"keyId\": \"id\"\x7d]\x7d"
    else .error .missing
  input := .ok "\x7b\x7d"

theorem check_agrees_with_strict_keyless :
    SelectorSource.load keylessEnvironment ⟨some "keyless.json", none⟩ =
        .ok ⟨"'keyless.json'", ⟨[⟨.associative, some "id", none, .empty⟩], []⟩⟩ ∧
      (∀ text ∈ some "[true]", ∃ value, Json.parse text = .ok value) ∧
      SameVerdict ⟨[⟨.associative, some "id", none, .empty⟩], []⟩
        (Invocation.run keylessEnvironment
          ⟨.check { source := ⟨some "keyless.json", none⟩, color := .always }, 0⟩)
        (Invocation.run keylessEnvironment ⟨.select {
          source := ⟨some "keyless.json", none⟩, unit := "  ", included := ["id"]
          depth := 3, strict := true, color := .always }, 0⟩)
        (Invocation.run keylessEnvironment ⟨.query {
          source := ⟨some "keyless.json", none⟩, name := "profile"
          parameters := some "[true]", strict := true, color := .always }, 0⟩) := by
  have loads : SelectorSource.load keylessEnvironment ⟨some "keyless.json", none⟩ =
      .ok ⟨"'keyless.json'", ⟨[⟨.associative, some "id", none, .empty⟩], []⟩⟩ := by
    decide +kernel
  have parsed : Json.parse "[true]" = .ok (.array [.bool true]) := by decide +kernel
  have valid : ∀ text ∈ some "[true]", ∃ value, Json.parse text = .ok value := by
    rintro text ⟨⟩
    exact ⟨_, parsed⟩
  exact ⟨loads, valid, check_agrees_with_strict.2 _ _ _ .always ⟨["id"], "  ", 3⟩ "profile"
    (some "[true]") none loads (by decide) valid⟩

end GraphSelect
