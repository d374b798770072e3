import GraphSelect.Operation.Assembly
import GraphSelect.Proofs.Selection.Clean
import GraphSelect.Proofs.Text.Balance

/-!
# Calls that the strict policy accepts

Three kinds of call have no diagnostic: texts alone, each with balanced braces, and the
two shapes of a named operation, with nothing after the selector and a clean selector
(`AcceptableCall`). The diagnostics of classification and of rendering are put into one
list. It is empty exactly for these calls (`assembleAll_diagnostics_eq_nil_iff`), so the
strict policy accepts exactly these calls and never changes a text
(`assemble_strict_exact`).
-/

set_option autoImplicit false

namespace GraphSelect

/-- A call of one of the shapes that mean something as a whole, with parts in order. -/
inductive AcceptableCall : List Argument → Prop
  /-- Texts only, possibly none, each with balanced braces. -/
  | fragments {texts : List String} (balanced : ∀ text ∈ texts, Text.Balanced text.toList) :
      AcceptableCall (texts.map .text)
  /-- A name and a selector. -/
  | named {name : String} {selector : Selector} (clean : selector.Clean) :
      AcceptableCall [.text name, .selector selector]
  /-- A name, a value for the parameters and a selector. -/
  | namedWith {name : String} {value : Json} {selector : Selector} (clean : selector.Clean) :
      AcceptableCall [.text name, .value value, .selector selector]

/-! ## Diagnostics of fragments -/

/-- Fragments have no diagnostic exactly when each is balanced. -/
theorem fragmentDiagnostics_eq_nil_iff {texts : List String} {index : Nat} :
    fragmentDiagnostics index texts = [] ↔ ∀ text ∈ texts, Text.Balanced text.toList := by
  induction texts generalizing index with
  | nil => simp [fragmentDiagnostics]
  | cons text rest ih =>
      rw [fragmentDiagnostics, List.forall_mem_cons, ← Text.unmatchedBrace?_eq_none_iff]
      cases Text.unmatchedBrace? text with
      | none => simp [ih]
      | some brace => simp

/-! ## Classification without complaint -/

namespace Request

/-- **The two shapes of a named operation.** The third argument of the first must not
count as a selector for parameters; whatever else follows does not matter. -/
theorem named?_eq_some_iff {arguments : List Argument} {found : Request × Nat} :
    named? arguments = some found ↔
      (∃ name selector rest, arguments = .text name :: .selector selector :: rest ∧
          takesParameters rest = false ∧ found = (.named name none selector, 2)) ∨
        ∃ name value selector rest,
          arguments = .text name :: .value value :: .selector selector :: rest ∧
            found = (.named name (some (.ofValue value)) selector, 3) := by
  constructor
  · intro shape
    unfold named? at shape
    split at shape
    · next name second rest =>
        split at shape
        · split at shape
          · next _ value selector others _ =>
              exact .inr ⟨name, value, selector, others, rfl, (Option.some.inj shape).symm⟩
          · cases shape
        · next takes =>
            split at shape
            · next selector =>
                exact .inl ⟨name, selector, rest, rfl, Bool.eq_false_iff.mpr takes,
                  (Option.some.inj shape).symm⟩
            · cases shape
    · cases shape
  · rintro (⟨name, selector, rest, rfl, takes, rfl⟩ | ⟨name, value, selector, rest, rfl, rfl⟩)
    · simp [named?, takes]
    · rfl

theorem classify_of_named {arguments : List Argument} {request : Request} {used : Nat}
    (shape : named? arguments = some (request, used)) :
    classify arguments = (request, ignoredAll used (arguments.drop used)) := by
  rw [classify, shape]

theorem classify_of_none {arguments : List Argument} (shape : named? arguments = none) :
    classify arguments = (.fragments (arguments.filterMap Argument.text?),
      (if looksNamed arguments then [unrecognized arguments] else []) ++
        ignoredOthers 0 arguments) := by
  rw [classify, shape]

theorem ignoredAll_eq_nil_iff {arguments : List Argument} {index : Nat} :
    ignoredAll index arguments = [] ↔ arguments = [] := by
  cases arguments <;> simp [ignoredAll]

/-- No argument is ignored next to fragments exactly when all are texts. -/
theorem ignoredOthers_eq_nil_iff {arguments : List Argument} {index : Nat} :
    ignoredOthers index arguments = [] ↔ ∃ texts : List String, texts.map .text = arguments := by
  induction arguments generalizing index with
  | nil => exact ⟨fun _ => ⟨[], rfl⟩, fun _ => rfl⟩
  | cons argument rest ih =>
      cases argument with
      | text text => simp [ignoredOthers, Argument.isText, ih, List.map_eq_cons_iff]
      | value json => simp [ignoredOthers, Argument.isText, List.map_eq_cons_iff]
      | selector selector => simp [ignoredOthers, Argument.isText, List.map_eq_cons_iff]

/-- Texts are classified as fragments, without complaint. -/
theorem classify_texts (texts : List String) :
    classify (texts.map .text) = (.fragments texts, []) := by
  have shape : named? (texts.map .text) = none := by
    rw [Option.eq_none_iff_forall_not_mem]
    intro found shape
    obtain ⟨name, selector, rest, split, -⟩ | ⟨name, value, selector, rest, split, -⟩ :=
      named?_eq_some_iff.mp shape
    · simp [List.map_eq_cons_iff] at split
    · simp [List.map_eq_cons_iff] at split
  have plain : looksNamed (texts.map .text) = false := by
    match texts with
    | [] => rfl
    | [_] => rfl
    | _ :: _ :: _ => rfl
  have used : ignoredOthers 0 (texts.map .text) = [] := ignoredOthers_eq_nil_iff.mpr ⟨texts, rfl⟩
  rw [classify_of_none shape, plain, used, List.filterMap_map]
  simp [Argument.text?, Function.comp_def]

end Request

/-! ## Acceptance -/

theorem assembleAll_eq (arguments : List Argument) :
    assembleAll arguments = ((Request.classify arguments).1.text,
      (Request.classify arguments).2 ++ (Request.classify arguments).1.diagnostics) := rfl

/-- **A call has no diagnostics exactly when it is acceptable.** -/
theorem assembleAll_diagnostics_eq_nil_iff {arguments : List Argument} :
    (assembleAll arguments).2 = [] ↔ AcceptableCall arguments := by
  rw [assembleAll_eq, List.append_eq_nil_iff]
  constructor
  · rintro ⟨noComplaint, noOmission⟩
    cases shape : Request.named? arguments with
    | some found =>
        obtain ⟨request, used⟩ := found
        rw [Request.classify_of_named shape] at noComplaint noOmission
        rw [Request.ignoredAll_eq_nil_iff] at noComplaint
        obtain ⟨name, selector, rest, rfl, -, same⟩ | ⟨name, value, selector, rest, rfl, same⟩ :=
          Request.named?_eq_some_iff.mp shape
        · cases same
          obtain rfl : rest = [] := noComplaint
          exact .named (selector.diagnostics_eq_nil_iff.mp noOmission)
        · cases same
          obtain rfl : rest = [] := noComplaint
          exact .namedWith (selector.diagnostics_eq_nil_iff.mp noOmission)
    | none =>
        rw [Request.classify_of_none shape, List.append_eq_nil_iff] at noComplaint
        obtain ⟨texts, rfl⟩ := Request.ignoredOthers_eq_nil_iff.mp noComplaint.2
        rw [Request.classify_texts] at noOmission
        exact .fragments (fragmentDiagnostics_eq_nil_iff.mp noOmission)
  · intro acceptable
    cases acceptable with
    | fragments balanced =>
        rw [Request.classify_texts]
        exact ⟨rfl, fragmentDiagnostics_eq_nil_iff.mpr balanced⟩
    | named clean => exact ⟨rfl, Selector.diagnostics_eq_nil_iff _ |>.mpr clean⟩
    | namedWith clean => exact ⟨rfl, Selector.diagnostics_eq_nil_iff _ |>.mpr clean⟩

/-- **The strict policy accepts exactly the acceptable calls.** It gives the text that the
lenient policy gives; otherwise it gives the diagnostics of the call, of which there is
at least one, while the lenient policy still gives a text. -/
theorem assemble_strict_exact (arguments : List Argument) :
    match assemble .strict arguments with
    | .ok text => AcceptableCall arguments ∧ assemble .lenient arguments = .ok text
    | .error rejection =>
      ¬AcceptableCall arguments ∧ rejection.diagnostics ≠ [] ∧
        rejection.diagnostics = (assembleAll arguments).2 ∧
        ∃ text, assemble .lenient arguments = .ok text := by
  by_cases none : (assembleAll arguments).2 = []
  · have accepted : assemble .strict arguments = .ok (assembleAll arguments).1 :=
      Policy.check_strict_eq_ok_iff.mpr ⟨none, rfl⟩
    rw [accepted]
    exact ⟨assembleAll_diagnostics_eq_nil_iff.mp none, rfl⟩
  · have rejected : assemble .strict arguments = .error ⟨(assembleAll arguments).2⟩ :=
      Policy.check_strict_eq_error_iff.mpr ⟨none, rfl⟩
    rw [rejected]
    exact ⟨fun acceptable => none (assembleAll_diagnostics_eq_nil_iff.mpr acceptable), none,
      rfl, _, rfl⟩

end GraphSelect
