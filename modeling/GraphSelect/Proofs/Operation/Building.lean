import GraphSelect.Operation.Builder
import GraphSelect.Proofs.Operation.Acceptance

/-!
# What a builder builds

A builder is set by any number of settings, and the last setting of a kind counts: the
policy is that of the last policy that was set, and the parameters are those that the last
value stands for, where a raw text counts as a string (`policy_setAll`,
`parameters_setAll`).

The call with the name, this value if there is one, and the selector is classified as the
request that the builder has made, whatever the value is (`Request.classify_namedCall`).
So the builder and the classified call give the same text or the same diagnostics
(`build_setAll`).
-/

set_option autoImplicit false

namespace GraphSelect

/-! ## Calls of a named operation -/

/-- The call with a name and a selector, and with a value between them if there is one. -/
def namedCall (name : String) (selector : Selector) : Option Json → List Argument
  | some value => [.text name, .value value, .selector selector]
  | none => [.text name, .selector selector]

/-- **The call of a named operation is classified as the operation**, without complaint. No
value in the place of the parameters counts as missing. -/
theorem Request.classify_namedCall (name : String) (selector : Selector) (value : Option Json) :
    classify (namedCall name selector value) =
      (.named name (value.map Parameters.ofValue) selector, []) := by
  cases value with
  | none =>
      have shape : named? (namedCall name selector none) = some (.named name none selector, 2) :=
        rfl
      rw [classify_of_named shape]
      rfl
  | some value =>
      have shape : named? (namedCall name selector (some value)) =
          some (.named name (some (.ofValue value)) selector, 3) := rfl
      rw [classify_of_named shape]
      rfl

/-- The call has the text of the operation, and what is left out of the selector is all that
there is to report. -/
theorem assembleAll_namedCall (name : String) (selector : Selector) (value : Option Json) :
    assembleAll (namedCall name selector value) =
      ((Request.named name (value.map Parameters.ofValue) selector).text,
        selector.diagnostics) := by
  rw [assembleAll_eq, Request.classify_namedCall]
  rfl

/-- A named operation is rendered as its call is assembled. -/
theorem Request.render_named (policy : Policy) (name : String) (selector : Selector)
    (value : Option Json) :
    (named name (value.map Parameters.ofValue) selector).render policy =
      assemble policy (namedCall name selector value) := by
  rw [assemble, assembleAll_namedCall]
  rfl

/-! ## Settings -/

/-- One setting of a builder. -/
inductive Setting where
  /-- The parameters that a value stands for. -/
  | value (value : Json)
  /-- A raw text as parameters. -/
  | raw (text : String)
  | policy (policy : Policy)

namespace Setting

/-- The value that is set. A raw text is a string. -/
def value? : Setting → Option Json
  | value json => some json
  | raw text => some (.string text)
  | policy _ => none

/-- The policy that is set. -/
def policy? : Setting → Option Policy
  | policy choice => some choice
  | _ => none

end Setting

namespace QueryBuilder

/-- The builder after one setting. -/
def set (builder : QueryBuilder) : Setting → QueryBuilder
  | .value value => builder.withValue value
  | .raw text => builder.withRaw text
  | .policy policy => builder.withPolicy policy

/-- The builder after some settings, in order. -/
def setAll (builder : QueryBuilder) (settings : List Setting) : QueryBuilder :=
  settings.foldl set builder

section Set

variable (builder : QueryBuilder) (setting : Setting)

theorem name_set : (builder.set setting).name = builder.name := by
  cases setting <;> rfl

theorem selector_set : (builder.set setting).selector = builder.selector := by
  cases setting <;> rfl

/-- A setting of parameters replaces all that were set before. -/
theorem parameters_set :
    (builder.set setting).parameters =
      (setting.value?.map Parameters.ofValue).or builder.parameters := by
  cases setting <;> rfl

theorem policy_set : (builder.set setting).policy = setting.policy?.getD builder.policy := by
  cases setting <;> rfl

end Set

section SetAll

variable (builder : QueryBuilder) (settings : List Setting)

theorem setAll_concat (last : Setting) :
    builder.setAll (settings ++ [last]) = (builder.setAll settings).set last := by
  rw [setAll, List.foldl_concat, ← setAll]

theorem name_setAll : (builder.setAll settings).name = builder.name := by
  induction settings using List.reverseRecOn with
  | nil => rfl
  | append_singleton earlier last ih => rw [setAll_concat, name_set, ih]

theorem selector_setAll : (builder.setAll settings).selector = builder.selector := by
  induction settings using List.reverseRecOn with
  | nil => rfl
  | append_singleton earlier last ih => rw [setAll_concat, selector_set, ih]

/-- The last value of the settings counts, before what was set at the start. -/
theorem parameters_setAll :
    (builder.setAll settings).parameters =
      ((settings.filterMap Setting.value?).getLast?.map Parameters.ofValue).or
        builder.parameters := by
  induction settings using List.reverseRecOn with
  | nil => rfl
  | append_singleton earlier last ih =>
      rw [setAll_concat, parameters_set, ih, List.filterMap_append, List.getLast?_append]
      cases named : last.value? <;> simp [named]

/-- The last policy of the settings counts, before that of the start. -/
theorem policy_setAll :
    (builder.setAll settings).policy =
      (settings.filterMap Setting.policy?).getLast?.getD builder.policy := by
  induction settings using List.reverseRecOn with
  | nil => rfl
  | append_singleton earlier last ih =>
      rw [setAll_concat, policy_set, ih, List.filterMap_append, List.getLast?_append]
      cases named : last.policy? <;> simp [named]

end SetAll

/-- **A builder agrees with the classified call.** After any settings it gives what the call
with the last value gives under the last policy: the same text, or the same diagnostics. -/
theorem build_setAll (name : String) (selector : Selector) (settings : List Setting) :
    (setAll { name, selector } settings).build =
      assemble ((settings.filterMap Setting.policy?).getLast?.getD .lenient)
        (namedCall name selector (settings.filterMap Setting.value?).getLast?) := by
  rw [build, request, name_setAll, selector_setAll, parameters_setAll, policy_setAll,
    Option.or_none, Request.render_named]

/-- A falsy value takes the place of a raw text, and leaves no parameters. -/
example (builder : QueryBuilder) :
    ((({ builder with name := "q", selector := .empty }.withRaw "id: 1").withPolicy
      .strict).withValue (.bool false)).build = .ok "\x7b\nq \x7b\n\x7d\n\x7d" := by
  rfl

end QueryBuilder

end GraphSelect
