import GraphSelect.Operation.Assembly
import GraphSelect.Proofs.Json.Nesting
import GraphSelect.Proofs.Operation.Acceptance
import GraphSelect.Proofs.Selection.Nesting

/-!
# Braces of a named operation

The text of a named operation has its own braces, those of its selection set, and those
that come with the values of its parameters. The names in it, and raw parameters, stand
there as they are (`Request.bareTexts`).

A reader that knows string literals sees one pair of braces with everything else in
between, whatever the strings of the values hold (`named_isBraceGroup`).

The check of fragments reads raw characters. Put before it, the text of a named operation
passes exactly when the braces of the values, those in strings included, lead back to the
one brace that is open around them (`strict_accepts_named_text_iff`). A single brace in a
string is enough to be refused (`strict_refuses_brace_in_string`).
-/

set_option autoImplicit false

namespace GraphSelect

open Text

/-! ## The parts of the text -/

/-- The texts that parameters write as they are. -/
def Parameters.bareTexts : Parameters → List String
  | .raw text => [text]
  | .entries list => list.map Prod.fst

/-- The values that parameters write as JSON. -/
def Parameters.values : Parameters → List Json
  | .raw _ => []
  | .entries list => list.map Prod.snd

namespace Request

/-- The texts that a request writes as they are: the fragments; or the name of the
operation, the bare texts of its parameters, and the keys and fields of its selector. -/
def bareTexts : Request → List String
  | .fragments texts => texts
  | .named name parameters selector =>
    name :: ((parameters.map Parameters.bareTexts).getD [] ++ selector.names)

/-- The values that a request writes as JSON. -/
def values : Request → List Json
  | .fragments _ => []
  | .named _ parameters _ => (parameters.map Parameters.values).getD []

/-- The parameters of a named operation as they are written. -/
def segmentText (parameters : Option Parameters) : String :=
  (parameters.map Parameters.segment).getD ""

/-- The characters of a named operation: an opening brace, the head, a closing brace. -/
theorem toList_text_named (name : String) (parameters : Option Parameters)
    (selector : Selector) :
    (named name parameters selector).text.toList =
      '{' :: (['\n'] ++ name.toList ++ (segmentText parameters).toList ++ [' '] ++
        ('{' :: (['\n'] ++ (selector.compile { depth := selectionDepth }).toList ++ ['}'])) ++
          ['\n'] ++ ['}']) := by
  have start : "\x7b\n".toList = ['{', '\n'] := rfl
  have head : " \x7b\n".toList = [' ', '{', '\n'] := rfl
  have stop : "\x7d\n\x7d".toList = ['}', '\n', '}'] := rfl
  simp [text, segmentText, start, head, stop]

end Request

/-! ## The parameters -/

/-- Parameters are nested text when their bare texts are. -/
theorem Parameters.nested_segment {parameters : Parameters}
    (named : ∀ text ∈ parameters.bareTexts, Nested IsPiece text.toList) :
    Nested IsPiece parameters.segment.toList := by
  have opening : "(".toList = ['('] := rfl
  have closing : ")".toList = [')'] := rfl
  have inside : Nested IsPiece parameters.inner.toList := by
    cases parameters with
    | raw text => exact named text List.mem_cons_self
    | entries list =>
        have comma : Nested IsPiece ", ".toList := .of_isPlain (by decide)
        have colon : Nested IsPiece ": ".toList := .of_isPlain (by decide)
        rw [inner, String.toList_intercalate, List.map_map]
        refine comma.intercalate fun chars member => ?_
        obtain ⟨entry, listed, rfl⟩ := List.mem_map.mp member
        rw [Function.comp_apply, entryText, String.toList_append, String.toList_append]
        exact ((named entry.1 (List.mem_map_of_mem listed)).append colon).append
          entry.2.nested_text
  unfold segment
  split
  · exact .nil
  · rw [String.toList_append, String.toList_append, opening, closing]
    exact (Nested.append (.of_isPlain (by decide)) inside).append (.of_isPlain (by decide))

/-- The braces of parameters are those of their values, when their bare texts have
none. -/
theorem Parameters.bracesOf_segment {parameters : Parameters}
    (bare : ∀ text ∈ parameters.bareTexts, BraceFree text.toList) :
    bracesOf parameters.segment.toList = parameters.values.flatMap Json.braces := by
  have opening : bracesOf "(".toList = [] := rfl
  have closing : bracesOf ")".toList = [] := rfl
  have inside : bracesOf parameters.inner.toList = parameters.values.flatMap Json.braces := by
    cases parameters with
    | raw text => exact (bare text List.mem_cons_self).bracesOf_eq_nil
    | entries list =>
        have colon : bracesOf ": ".toList = [] := rfl
        rw [inner, values, String.toList_intercalate, bracesOf_intercalate (by decide),
          List.map_map, List.flatMap_map, List.flatMap_map]
        refine List.flatMap_congr fun entry listed => ?_
        rw [Function.comp_apply, entryText, String.toList_append, String.toList_append,
          bracesOf_append, bracesOf_append, colon, Json.bracesOf_text,
          (bare entry.1 (List.mem_map_of_mem listed)).bracesOf_eq_nil, List.append_nil,
          List.nil_append]
  unfold segment
  split
  · next empty =>
      cases parameters with
      | raw text => cases empty
      | entries list =>
          obtain rfl : list = [] := List.isEmpty_iff.mp empty
          rfl
  · rw [String.toList_append, String.toList_append, bracesOf_append, bracesOf_append, opening,
      closing, inside, List.nil_append, List.append_nil]

namespace Request

theorem nested_segmentText {parameters : Option Parameters}
    (named : ∀ text ∈ (parameters.map Parameters.bareTexts).getD [], Nested IsPiece text.toList) :
    Nested IsPiece (segmentText parameters).toList := by
  cases parameters with
  | none => exact .nil
  | some parameters => exact Parameters.nested_segment named

theorem bracesOf_segmentText {parameters : Option Parameters}
    (bare : ∀ text ∈ (parameters.map Parameters.bareTexts).getD [], BraceFree text.toList) :
    bracesOf (segmentText parameters).toList =
      ((parameters.map Parameters.values).getD []).flatMap Json.braces := by
  cases parameters with
  | none => rfl
  | some parameters => exact Parameters.bracesOf_segment bare

end Request

/-! ## One pair of braces -/

/-- **The text of a named operation is one pair of braces**, when its names and raw
parameters have neither braces nor double quotes. The strings in the values of its
parameters may hold anything. -/
theorem named_isBraceGroup (name : String) (parameters : Option Parameters)
    (selector : Selector)
    (plainly : ∀ text ∈ (Request.named name parameters selector).bareTexts,
      IsPlain text.toList) :
    ∃ text, (Request.named name parameters selector).render .lenient = .ok text ∧
      IsBraceGroup text.toList := by
  have named : ∀ text ∈ (Request.named name parameters selector).bareTexts,
      Nested IsPiece text.toList := fun text member => .of_isPlain (plainly text member)
  rw [Request.bareTexts, List.forall_mem_cons, List.forall_mem_append] at named
  obtain ⟨ofName, ofParameters, ofSelector⟩ := named
  have space : Nested IsPiece [' '] := .of_isPlain (by decide)
  have newline : Nested IsPiece ['\n'] := .of_isPlain (by decide)
  have selection : Nested IsPiece (selector.compile { depth := selectionDepth }).toList :=
    selector.nested_compile _ ⟨.nil, space, newline⟩ ofSelector
  refine ⟨_, rfl, ?_⟩
  rw [Request.toList_text_named]
  refine Nested.isBraceGroup (Nested.append ?_ newline)
  have head := (newline.append ofName).append (Request.nested_segmentText ofParameters)
  exact (head.append space).append (newline.append selection).braces

/-- Parameters with braces, quotes and backslashes in their strings and member names. -/
def filterParameters : Parameters :=
  .entries [("where", .object [("title", .string "\x7d\"\\\x7b"),
      ("\x7d\x7b\"", .array [.null, .bool true])]),
    ("after", .string "\\\"\x7d\x7d")]

theorem named_isBraceGroup_filter :
    (∀ text ∈ (Request.named "articles" (some filterParameters) articleSelector).bareTexts,
      IsPlain text.toList) ∧
    ∃ text, (Request.named "articles" (some filterParameters) articleSelector).render .lenient =
        .ok text ∧ IsBraceGroup text.toList := by
  have plainly :
      ∀ text ∈ (Request.named "articles" (some filterParameters) articleSelector).bareTexts,
        IsPlain text.toList := by
    decide
  exact ⟨plainly, named_isBraceGroup _ _ _ plainly⟩

/-! ## The check of raw characters -/

/-- The strict policy accepts a text alone exactly when it is balanced. -/
theorem strict_accepts_text_iff {text : String} :
    (∃ result, assemble .strict [.text text] = .ok result) ↔ Text.Balanced text.toList := by
  have fragment : (assembleAll [.text text]).2 = fragmentDiagnostics 0 [text] := rfl
  simp only [assemble, Policy.check_strict_eq_ok_iff, exists_and_left, exists_eq, and_true,
    fragment, fragmentDiagnostics_eq_nil_iff, List.forall_mem_singleton]

/-- Of the text of a named operation, raw reading meets one brace of its own before the
braces of the values and closes it behind them. -/
theorem Request.depthAfter?_text_named {name : String} {parameters : Option Parameters}
    {selector : Selector}
    (bare : ∀ text ∈ (named name parameters selector).bareTexts, BraceFree text.toList) :
    depthAfter? 0 (named name parameters selector).text.toList =
      (depthAfter? 1 ((named name parameters selector).values.flatMap Json.braces)).bind
        (depthAfter? · ['}']) := by
  rw [bareTexts, List.forall_mem_cons, List.forall_mem_append] at bare
  obtain ⟨ofName, ofParameters, ofSelector⟩ := bare
  have space : Nested BraceFree [' '] := .of_piece (by decide)
  have newline : Nested BraceFree ['\n'] := .of_piece (by decide)
  have selection : Nested BraceFree (selector.compile { depth := selectionDepth }).toList :=
    selector.nested_compile _ ⟨.nil, space, newline⟩ fun name member =>
      .of_piece (ofSelector name member)
  have head : Nested BraceFree (['\n'] ++ name.toList) := newline.append (.of_piece ofName)
  have tail : Nested BraceFree ([' '] ++ ('{' :: (['\n'] ++
      (selector.compile { depth := selectionDepth }).toList ++ ['}'])) ++ ['\n']) :=
    (space.append (newline.append selection).braces).append newline
  have segment : depthAfter? 1 (segmentText parameters).toList =
      depthAfter? 1 ((named name parameters selector).values.flatMap Json.braces) := by
    rw [← depthAfter?_bracesOf, bracesOf_segmentText ofParameters, values]
  have parts : (named name parameters selector).text.toList =
      '{' :: ((['\n'] ++ name.toList) ++ ((segmentText parameters).toList ++ (([' '] ++
        ('{' :: (['\n'] ++ (selector.compile { depth := selectionDepth }).toList ++ ['}'])) ++
          ['\n']) ++ ['}']))) := by
    rw [toList_text_named]
    simp only [List.append_assoc]
  rw [parts, depthAfter?_opening, depthAfter?_append, head.depthAfter?_eq, Option.bind_some,
    depthAfter?_append, segment]
  refine congrArg _ (funext fun depth => ?_)
  rw [depthAfter?_append, tail.depthAfter?_eq, Option.bind_some]

/-- **The strict policy accepts the text of a named operation as a fragment exactly when
the braces of its values lead back to the one open brace around them**, where names and
raw parameters have no braces. It is enough that every string in the values is balanced.
-/
theorem strict_accepts_named_text_iff (name : String) (parameters : Option Parameters)
    (selector : Selector)
    (bare : ∀ text ∈ (Request.named name parameters selector).bareTexts, BraceFree text.toList) :
    ((∃ result, assemble .strict [.text (Request.named name parameters selector).text] =
        .ok result) ↔
      BalancedWithin 1 ((Request.named name parameters selector).values.flatMap Json.braces)) ∧
    ((∀ value ∈ (Request.named name parameters selector).values, ∀ text ∈ value.strings,
        Text.Balanced text.toList) →
      ∃ result, assemble .strict [.text (Request.named name parameters selector).text] =
        .ok result) := by
  have exactly : (∃ result, assemble .strict
        [.text (Request.named name parameters selector).text] = .ok result) ↔
      BalancedWithin 1 ((Request.named name parameters selector).values.flatMap Json.braces) := by
    rw [strict_accepts_text_iff, Text.Balanced, ← depthAfter?_eq_self_iff,
      ← depthAfter?_eq_self_iff, Request.depthAfter?_text_named bare]
    cases depthAfter? 1 ((Request.named name parameters selector).values.flatMap Json.braces) with
    | none => simp
    | some depth =>
        rcases depth with _ | _ | depth
        · simp [depthAfter?_zero_closing]
        · simp [depthAfter?_closing]
        · simp [depthAfter?_closing]
  refine ⟨exactly, fun strings => exactly.mpr (BalancedWithin.flatMap fun value listed => ?_)⟩
  exact (value.balanced_braces (strings value listed)).within 1

/-- Parameters with nested objects and with braces in a string and in a member name, each
of them with its partner. -/
def templateParameters : Parameters :=
  .entries [("where", .object [("title", .string "a\x7bb\x7bc\x7d\x7dd"),
      ("\x7b\x7d", .array [.object [], .null])]),
    ("after", .string "\"\\")]

theorem strict_accepts_named_text_template :
    (∀ text ∈ (Request.named "articles" (some templateParameters) articleSelector).bareTexts,
      BraceFree text.toList) ∧
    (∀ value ∈ (Request.named "articles" (some templateParameters) articleSelector).values,
      ∀ text ∈ value.strings, Text.Balanced text.toList) ∧
    ∃ result, assemble .strict
      [.text (Request.named "articles" (some templateParameters) articleSelector).text] =
        .ok result := by
  have bare : ∀ text ∈
      (Request.named "articles" (some templateParameters) articleSelector).bareTexts,
      BraceFree text.toList := by
    decide
  have balanced : ∀ value ∈
      (Request.named "articles" (some templateParameters) articleSelector).values,
      ∀ text ∈ value.strings, Text.Balanced text.toList := by
    decide
  exact ⟨bare, balanced, (strict_accepts_named_text_iff _ _ _ bare).2 balanced⟩

/-- An opening brace in a string of the parameters. -/
def braceParameters : Parameters := .entries [("a", .string "\x7b")]

/-- **A brace in a string can be refused.** The names have no braces, and still the text of
the operation does not pass the check. -/
theorem strict_refuses_brace_in_string :
    (∀ text ∈ (Request.named "q" (some braceParameters) .empty).bareTexts,
      BraceFree text.toList) ∧
    assemble .strict [.text (Request.named "q" (some braceParameters) .empty).text] =
      .error ⟨[⟨.unbalancedBraces, "fragments[0]", "unbalanced braces in fragment",
        ["unmatched `\x7b`"]⟩]⟩ := by
  exact ⟨by decide, by decide⟩

end GraphSelect
