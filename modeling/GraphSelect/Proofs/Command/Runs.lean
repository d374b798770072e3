import GraphSelect.Command.Run

/-!
# What a quiet run shows

A run that does not log shows what its command writes and nothing else (`Report.quiet`).
When the selector loads, each command on a selector comes down to one result: a text that
the policy passes on, or the rendered diagnostics. Rendered diagnostics are whole lines, so
whatever is written behind them starts a line of its own.

The parameters of a query are given in one of two ways or not at all. At most one
value stands for them (`QuerySettings.Asks`), and with it the builder of the query is known.
-/

set_option autoImplicit false

namespace GraphSelect

/-! ## Whole lines -/

/-- The text ends with the end of a line. -/
def Text.EndsLine (text : String) : Prop := ∃ shown, text = shown ++ "\n"

namespace Text

theorem EndsLine.append_left {last : String} (ends : EndsLine last) (front : String) :
    EndsLine (front ++ last) := by
  obtain ⟨shown, rfl⟩ := ends
  exact ⟨front ++ shown, (String.append_assoc ..).symm⟩

/-- Lines behind the end of a line. -/
theorem EndsLine.append_join {text : String} (ends : EndsLine text) {lines : List String}
    (each : ∀ line ∈ lines, EndsLine line) : EndsLine (text ++ String.join lines) := by
  induction lines generalizing text with
  | nil =>
      rw [String.join_nil, String.append_empty]
      exact ends
  | cons line rest ih =>
      rw [String.join_cons, ← String.append_assoc]
      apply ih
      · exact (each line List.mem_cons_self).append_left text
      · intro other member
        exact each other (List.mem_cons_of_mem line member)

theorem EndsLine.intercalate {separator : String} {texts : List String} (some : texts ≠ [])
    (each : ∀ text ∈ texts, EndsLine text) : EndsLine (separator.intercalate texts) := by
  induction texts with
  | nil => exact absurd rfl some
  | cons text rest ih =>
      cases rest with
      | nil =>
          rw [String.intercalate_singleton]
          exact each text List.mem_cons_self
      | cons next others =>
          rw [String.intercalate_cons_cons]
          apply EndsLine.append_left
          apply ih (List.cons_ne_nil next others)
          intro other member
          exact each other (List.mem_cons_of_mem text member)

end Text

open Text

theorem Diagnostic.endsLine_render (colors : Colors) (withHints : Bool) (diagnostic : Diagnostic) :
    EndsLine (diagnostic.render colors withHints) := by
  have path : EndsLine (diagnostic.headLine colors ++ diagnostic.pathLine colors) :=
    EndsLine.append_left ⟨_, rfl⟩ _
  unfold render
  split
  · apply path.append_join
    intro line member
    obtain ⟨hint, -, rfl⟩ := List.mem_map.mp member
    exact ⟨_, rfl⟩
  · rw [String.append_empty]
    exact path

/-- **Rendered diagnostics are whole lines.** -/
theorem Diagnostics.endsLine_render (colors : Colors) (withHints : Bool)
    {diagnostics : Diagnostics} (some : diagnostics ≠ []) :
    EndsLine (diagnostics.render colors withHints) := by
  apply EndsLine.intercalate
  · rwa [ne_eq, List.map_eq_nil_iff]
  · intro text member
    obtain ⟨diagnostic, -, rfl⟩ := List.mem_map.mp member
    exact diagnostic.endsLine_render colors withHints

/-! ## Outcomes -/

namespace Report

/-- A quiet run shows nothing of the log. -/
theorem quiet_logging (records : List LogRecord) (report : Report) :
    (report.logging records).quiet = report.quiet := rfl

/-- The strict policy shows either the text or all diagnostics. -/
theorem quiet_ofResult_strict (colors : Colors) (diagnostics : Diagnostics) (text : String) :
    (ofResult colors (Policy.strict.check diagnostics text)).quiet =
      if diagnostics = [] then ⟨text ++ "\n", "", 0⟩
      else ⟨"", diagnostics.render colors true, 1⟩ := by
  by_cases none : diagnostics = []
  · rw [Policy.check_strict_eq_ok_iff.mpr ⟨none, rfl⟩, if_pos none]
    rfl
  · rw [Policy.check_strict_eq_error_iff.mpr ⟨none, rfl⟩, if_neg none]
    simp [ofResult, quiet]

end Report

variable {environment : Environment} {loaded : Loaded}

theorem SelectorSource.quiet_use {source : SelectorSource}
    (loads : source.load environment = .ok loaded) (go : Selector → Report) :
    (source.use environment go).quiet = (go loaded.selector).quiet := by
  rw [use, loads]
  rfl

/-- A quiet check writes nothing, or the diagnostics, an empty line and the tally. -/
theorem CheckSettings.quiet_run {settings : CheckSettings}
    (loads : settings.source.load environment = .ok loaded) :
    (settings.run environment).quiet =
      if loaded.selector.diagnostics = [] then ⟨"", "", 0⟩
      else
        let colors := settings.color.colors environment.terminal
        ⟨"", loaded.selector.diagnostics.render colors true ++ "\n" ++
          loaded.selector.diagnostics.tally ++ "\n", 1⟩ := by
  rw [run, SelectorSource.quiet_use loads, Report.quiet_logging]
  cases loaded.selector.diagnostics with
  | nil => rfl
  | cons first rest => simp [Report.quiet]

/-- A quiet compilation puts the diagnostics of the selector before the policy. -/
theorem SelectSettings.quiet_run {settings : SelectSettings}
    (loads : settings.source.load environment = .ok loaded) :
    (settings.run environment).quiet =
      (Report.ofResult (settings.color.colors environment.terminal)
        ((Policy.ofStrict settings.strict).check loaded.selector.diagnostics
          (trimLineEnds (loaded.selector.compile settings.options)))).quiet := by
  rw [run, SelectorSource.quiet_use loads, Report.quiet_logging]

namespace QuerySettings

/-- The value that a query puts in the place of the parameters. -/
inductive Asks (settings : QuerySettings) : Option Json → Prop
  /-- The value of a JSON text. Doubles that are whole numbers count as integers. -/
  | value {text : String} {value : Json} (given : settings.parameters = some text)
      (parsed : Json.parse text = .ok value) : Asks settings (some value.canonical)
  /-- The raw text as a string. -/
  | raw {text : String} (absent : settings.parameters = none)
      (given : settings.rawParameters = some text) : Asks settings (some (.string text))
  /-- No value at all. -/
  | nothing (absent : settings.parameters = none) (bare : settings.rawParameters = none) :
      Asks settings none

/-- The builder of a query has the parameters that the value stands for. -/
theorem builder_eq_of_asks {settings : QuerySettings} {value : Option Json}
    (asks : settings.Asks value) (selector : Selector) :
    settings.builder selector = .ok ⟨settings.name, selector,
      value.map Parameters.ofValue, .ofStrict settings.strict⟩ := by
  unfold builder
  cases asks with
  | value given parsed =>
      simp only [given, parsed, Except.map]
      rfl
  | raw absent given =>
      simp only [absent, given]
      rfl
  | nothing absent bare =>
      simp only [absent, bare]
      rfl

/-- The text for the parameters is a JSON value, or there is none. -/
def ValidParameters (settings : QuerySettings) : Prop :=
  ∀ text ∈ settings.parameters, ∃ value, Json.parse text = .ok value

/-- With valid parameters a query asks for something. -/
theorem exists_asks {settings : QuerySettings} (valid : settings.ValidParameters) :
    ∃ value, settings.Asks value := by
  cases given : settings.parameters with
  | some text =>
      obtain ⟨value, parsed⟩ := valid text given
      exact ⟨_, .value given parsed⟩
  | none =>
      cases raw : settings.rawParameters with
      | some text => exact ⟨_, .raw given raw⟩
      | none => exact ⟨_, .nothing given raw⟩

/-- With valid parameters there is a builder for every selector, under the policy that
was asked for. -/
theorem exists_builder {settings : QuerySettings} (valid : settings.ValidParameters)
    (selector : Selector) :
    ∃ parameters, settings.builder selector =
      .ok ⟨settings.name, selector, parameters, .ofStrict settings.strict⟩ := by
  obtain ⟨value, asks⟩ := exists_asks valid
  exact ⟨_, builder_eq_of_asks asks selector⟩

/-- A query with a name, a selector that loads and a builder builds its operation. -/
theorem run_eq {settings : QuerySettings} {builder : QueryBuilder}
    (named : settings.name ≠ "") (loads : settings.source.load environment = .ok loaded)
    (built : settings.builder loaded.selector = .ok builder) :
    settings.run environment =
      ((Report.ofResult (settings.color.colors environment.terminal) builder.build).logging
        loaded.selector.omissionRecords).logging [loaded.record] := by
  have nonempty : ¬settings.name.isEmpty = true := by
    rwa [String.isEmpty_iff]
  rw [run, if_neg nonempty, SelectorSource.use, loads]
  simp only [built]

/-- A quiet query shows what its builder builds. -/
theorem quiet_run {settings : QuerySettings} {builder : QueryBuilder}
    (named : settings.name ≠ "") (loads : settings.source.load environment = .ok loaded)
    (built : settings.builder loaded.selector = .ok builder) :
    (settings.run environment).quiet =
      (Report.ofResult (settings.color.colors environment.terminal) builder.build).quiet := by
  rw [run_eq named loads built]
  rfl

end QuerySettings

end GraphSelect
