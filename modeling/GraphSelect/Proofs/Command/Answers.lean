import GraphSelect.Proofs.Command.Runs
import GraphSelect.Proofs.Json.Tree
import GraphSelect.Proofs.Operation.Building
import GraphSelect.Proofs.Selection.Pass

/-!
# Commands give the answers of the library

A quiet run of a command shows the answer to one question: what a call gives under a
policy, or what the compilation of a selector gives. `Outcome.ofAnswer` says what is seen
of an answer. A text is written to the output stream and ends its line. A rejection is
written to the error stream as its diagnostics in the colors that were chosen, and the
exit code is 1.

A query asks with a builder, and so it asks what its call asks (`Request.render_named`). A
compilation removes the newlines at the end of the text before it writes one. When no name
in the selection set is empty or has a newline in it, the text ends with one newline at
most, so this only completes the last line (`trimLineEnds_append_newline`).
-/

set_option autoImplicit false

namespace GraphSelect

open Selection Text

/-! ## The last line of a selection set -/

namespace Text

/-- The text, with a newline at its end if there is none. -/
def completeLine (text : String) : String :=
  if text.toList.getLast? = some '\n' then text else text ++ "\n"

/-- The characters end with one that is no newline, or with such a one and a newline. -/
def EndsInLine (chars : List Char) : Prop :=
  ∃ front last, last ≠ '\n' ∧ (chars = front ++ [last] ∨ chars = front ++ [last, '\n'])

theorem EndsInLine.append_left {chars : List Char} (ends : EndsInLine chars)
    (front : List Char) : EndsInLine (front ++ chars) := by
  obtain ⟨middle, last, proper, rfl | rfl⟩ := ends
  · exact ⟨front ++ middle, last, proper, .inl (List.append_assoc ..).symm⟩
  · exact ⟨front ++ middle, last, proper, .inr (List.append_assoc ..).symm⟩

end Text

/-- **Removing the newlines at the end and writing one completes the last line.** -/
theorem trimLineEnds_append_newline {text : String}
    (ends : text = "" ∨ EndsInLine text.toList) :
    trimLineEnds text ++ "\n" = completeLine text := by
  rw [completeLine, String.ext_iff]
  rcases ends with rfl | ⟨front, last, proper, whole | whole⟩
  · rfl
  · simp [trimLineEnds, whole, proper]
  · simp [trimLineEnds, whole, proper]

namespace Selection

/-- The name can stand on a line: it is not empty and has no newline. -/
def IsLineName (name : String) : Prop := name ≠ "" ∧ '\n' ∉ name.toList

instance (name : String) : Decidable (IsLineName name) :=
  inferInstanceAs (Decidable (name ≠ "" ∧ '\n' ∉ name.toList))

theorem endsInLine_text (unit : String) (depth : Nat) {entry : Selection}
    (proper : IsLineName entry.name) : EndsInLine (text unit depth entry).toList := by
  cases entry with
  | leaf name =>
      obtain ⟨nonempty, inline⟩ : IsLineName name := proper
      rcases List.eq_nil_or_concat name.toList with none | ⟨front, last, split⟩
      · exact absurd (String.toList_eq_nil_iff.mp none) nonempty
      · refine ⟨(margin unit depth).toList ++ front, last, ?_, .inr ?_⟩
        · rintro rfl
          exact inline (by simp [split])
        · simp [text, split, toList_newline]
  | block name body =>
      refine ⟨(margin unit depth ++ name ++ " \x7b\n" ++ textOfAll unit (depth + 1) body ++
        margin unit depth).toList, '}', by decide, ?_⟩
      rw [text, closingEnd]
      split
      · exact .inl (by simp)
      · exact .inr (by simp)

/-- A selection set is empty or ends with a line that has something on it. -/
theorem endsInLine_textOfAll (unit : String) (depth : Nat) {entries : List Selection}
    (proper : ∀ name ∈ namesOfAll entries, IsLineName name) :
    textOfAll unit depth entries = "" ∨ EndsInLine (textOfAll unit depth entries).toList := by
  induction entries with
  | nil => exact .inl rfl
  | cons first rest ih =>
      have here : IsLineName first.name := by
        apply proper
        cases first <;> simp [namesOfAll, names, name]
      have others := ih fun name member => proper name (by simp [namesOfAll, member])
      rw [textOfAll, String.toList_append]
      right
      rcases others with empty | ends
      · rw [empty, String.toList_empty, List.append_nil]
        exact endsInLine_text unit depth here
      · exact ends.append_left _

end Selection

/-! ## Answers -/

/-- What is seen of an answer: the text as it is finished on the output stream, or the
diagnostics in colors on the error stream. -/
def Outcome.ofAnswer (finish : String → String) (colors : Colors) :
    Except Rejection String → Outcome
  | .ok text => ⟨finish text, "", 0⟩
  | .error rejection => ⟨"", rejection.diagnostics.render colors true, 1⟩

/-- A report of a result shows it with one newline. -/
theorem Report.quiet_ofResult (colors : Colors) (result : Except Rejection String) :
    (ofResult colors result).quiet = .ofAnswer (· ++ "\n") colors result := by
  cases result with
  | ok text => rfl
  | error rejection => rfl

/-- Only the text of an answer depends on how it is finished. -/
theorem Outcome.ofAnswer_check (finish finish' : String → String) (colors : Colors)
    (policy : Policy) (diagnostics : Diagnostics) {text text' : String}
    (same : finish text = finish' text') :
    ofAnswer finish colors (policy.check diagnostics text) =
      ofAnswer finish' colors (policy.check diagnostics text') := by
  unfold Policy.check
  split
  · rfl
  · rw [ofAnswer, ofAnswer, same]

variable {environment : Environment} {loaded : Loaded}

namespace QuerySettings

/-- A quiet query shows what its call gives. -/
theorem quiet_run_of_asks {settings : QuerySettings} {value : Option Json}
    (named : settings.name ≠ "") (loads : settings.source.load environment = .ok loaded)
    (asks : settings.Asks value) :
    (settings.run environment).quiet =
      .ofAnswer (· ++ "\n") (settings.color.colors environment.terminal)
        (assemble (.ofStrict settings.strict)
          (namedCall settings.name loaded.selector value)) := by
  rw [quiet_run named loads (builder_eq_of_asks asks loaded.selector),
    Report.quiet_ofResult, QueryBuilder.build, QueryBuilder.request, Request.render_named]

end QuerySettings

/-- A quiet compilation shows what a pass gives, and completes its last line. -/
theorem SelectSettings.quiet_run_of_names {settings : SelectSettings}
    (loads : settings.source.load environment = .ok loaded)
    (proper : ∀ name ∈ namesOfAll (loaded.selector.selections settings.included),
      IsLineName name) :
    (settings.run environment).quiet =
      .ofAnswer completeLine (settings.color.colors environment.terminal)
        ((Policy.ofStrict settings.strict).check
          (loaded.selector.compileReporting settings.options).2.diagnostics
          (loaded.selector.compileReporting settings.options).1) := by
  have ends := endsInLine_textOfAll settings.unit settings.depth proper
  rw [quiet_run loads, Report.quiet_ofResult, Selector.compileReporting_eq]
  exact Outcome.ofAnswer_check _ _ _ _ _ (trimLineEnds_append_newline ends)

/-- **Quiet commands give the answers of the library.** A query gives what its call gives,
with the value of its parameters between the name and the selector, and fragments give
what their texts give. Each of the two is written with one newline behind it. A
compilation gives the text of a pass under the policy, with its last line completed. -/
theorem commands_answer (environment : Environment) :
    (∀ (settings : QuerySettings) (loaded : Loaded) (value : Option Json),
      settings.name ≠ "" → settings.source.load environment = .ok loaded →
        settings.Asks value →
          Invocation.run environment ⟨.query settings, 0⟩ =
            .ofAnswer (· ++ "\n") (settings.color.colors environment.terminal)
              (assemble (.ofStrict settings.strict)
                (namedCall settings.name loaded.selector value))) ∧
      (∀ settings : FragmentsSettings,
        Invocation.run environment ⟨.fragments settings, 0⟩ =
          .ofAnswer (· ++ "\n") (settings.color.colors environment.terminal)
            (assemble (.ofStrict settings.strict) (settings.texts.map .text))) ∧
      ∀ (settings : SelectSettings) (loaded : Loaded),
        settings.source.load environment = .ok loaded →
          (∀ name ∈ namesOfAll (loaded.selector.selections settings.included),
            IsLineName name) →
            Invocation.run environment ⟨.select settings, 0⟩ =
              .ofAnswer completeLine (settings.color.colors environment.terminal)
                ((Policy.ofStrict settings.strict).check
                  (loaded.selector.compileReporting settings.options).2.diagnostics
                  (loaded.selector.compileReporting settings.options).1) := by
  refine ⟨?_, ?_, ?_⟩
  · intro settings loaded value named loads asks
    exact QuerySettings.quiet_run_of_asks named loads asks
  · intro settings
    exact Report.quiet_ofResult _ _
  · intro settings loaded loads proper
    exact SelectSettings.quiet_run_of_names loads proper

/-- A file with a selector, and input that is no text. -/
def profileEnvironment : Environment where
  file path :=
    if path = "profile.json" then
      .ok ("\x7b\"relationships\": [\x7b\"keyId\": \"id\", \"keyValue\": \"profile\"\x7d, " ++
        "\x7b\"keyValue\": \"id\"\x7d], \"meta\": \x7b\"gqlFields\": [\"name\"]\x7d\x7d")
    else .error .missing
  input := .error .notText

/-- The selector of the file. -/
def profileSelector : Selector :=
  ⟨[.between .associative "id" "profile" .empty, ⟨.associative, none, some "id", .empty⟩],
    ["name"]⟩

/-- A query with a whole number that is written as a double. -/
def profileQuery : QuerySettings where
  source := ⟨some "profile.json", none⟩
  name := "getUser"
  parameters := some "\x7b\"id\": 5.0\x7d"

/-- A compilation with a newline as its unit. -/
def profileCompilation : SelectSettings where
  source := ⟨some "profile.json", none⟩
  unit := "\n"
  depth := 1

theorem commands_answer_profile :
    SelectorSource.load profileEnvironment ⟨some "profile.json", none⟩ =
        .ok ⟨"'profile.json'", profileSelector⟩ ∧
      profileQuery.Asks (some (.object [("id", .number (.integer ⟨5, by decide, by decide⟩))])) ∧
      (∀ name ∈ namesOfAll (profileSelector.selections profileCompilation.included),
        IsLineName name) ∧
      Invocation.run profileEnvironment ⟨.query profileQuery, 0⟩ =
        ⟨"\x7b\ngetUser(id: 5) \x7b\nid\nprofile \x7b\n\x7dname\n\x7d\n\x7d\n", "", 0⟩ ∧
      Invocation.run profileEnvironment ⟨.select profileCompilation, 0⟩ =
        ⟨"\nid\n\nprofile \x7b\n\n\x7d\n\nname\n", "", 0⟩ := by
  have loads : SelectorSource.load profileEnvironment ⟨some "profile.json", none⟩ =
      .ok ⟨"'profile.json'", profileSelector⟩ := by
    decide +kernel
  have asks : profileQuery.Asks
      (some (.object [("id", .number (.integer ⟨5, by decide, by decide⟩))])) := by
    have parsed : (Json.parse "\x7b\"id\": 5.0\x7d").map Json.canonical =
        .ok (.object [("id", .number (.integer ⟨5, by decide, by decide⟩))]) := by
      decide +kernel
    cases result : Json.parse "\x7b\"id\": 5.0\x7d" with
    | error error =>
        rw [result] at parsed
        cases parsed
    | ok value =>
        rw [result] at parsed
        rw [← Except.ok.inj parsed]
        exact .value rfl result
  have proper : ∀ name ∈ namesOfAll (profileSelector.selections profileCompilation.included),
      IsLineName name := by
    decide
  have answers := commands_answer profileEnvironment
  refine ⟨loads, asks, proper, ?_, ?_⟩
  · rw [answers.1 profileQuery _ _ (by decide) loads asks]
    decide
  · rw [answers.2.2 profileCompilation _ loads proper]
    decide

end GraphSelect
