import GraphSelect.Proofs.Operation.Braces
import GraphSelect.Proofs.Text.Stripping

/-!
# Merged fragments

Fragments are stripped and joined by newlines inside one pair of braces. Each stripped
fragment that was balanced is balanced inside of one open brace, and the outer pair of the
document is open around all of them. So what the strict policy accepts is a balanced
document (`assemble_fragments_balanced`).

The text of a named operation is such a pair of braces with newlines inside of it and the
body of the operation between them. Merging the texts of named operations takes off just
these braces and newlines: the bodies come back unchanged (`merge_named_operations`).
-/

set_option autoImplicit false

namespace GraphSelect

open Text

/-! ## Balance -/

theorem Request.toList_text_fragments (texts : List String) :
    (fragments texts).text.toList =
      '{' :: (['\n'].intercalate (texts.map fun text => (stripOuterBraces text).toList) ++
        ['}']) := by
  rw [text, String.toList_append, String.toList_append, String.toList_intercalate, List.map_map,
    toList_opening, toList_closing, toList_newline]
  rfl

/-- Joining keeps the balance inside of open braces. -/
theorem Text.BalancedWithin.intercalate {around : Nat} {separator : List Char}
    (free : BraceFree separator) {texts : List (List Char)}
    (each : ∀ text ∈ texts, BalancedWithin around text) :
    BalancedWithin around (separator.intercalate texts) := by
  rw [← balancedWithin_bracesOf_iff, bracesOf_intercalate free]
  apply BalancedWithin.flatMap
  intro text member
  exact balancedWithin_bracesOf_iff.mpr (each text member)

/-- The document of balanced fragments is balanced. -/
theorem Request.balanced_text_fragments {texts : List String}
    (balanced : ∀ text ∈ texts, Balanced text.toList) :
    Balanced (fragments texts).text.toList := by
  rw [toList_text_fragments]
  apply BalancedWithin.braces
  apply BalancedWithin.intercalate (by decide)
  intro stripped member
  obtain ⟨text, listed, rfl⟩ := List.mem_map.mp member
  exact balancedWithin_stripOuterBraces (balanced text listed)

/-- Texts alone are merged as fragments. -/
theorem assemble_texts (policy : Policy) (texts : List String) :
    assemble policy (texts.map .text) =
      policy.check (fragmentDiagnostics 0 texts) (Request.fragments texts).text := by
  rw [assemble, assembleAll_eq, Request.classify_texts]
  rfl

/-- **Accepted fragments give a balanced document.** It begins with an opening brace and
ends with a closing one. -/
theorem assemble_fragments_balanced (texts : List String) (document : String)
    (accepted : assemble .strict (texts.map .text) = .ok document) :
    document.toList.head? = some '{' ∧ document.toList.getLast? = some '}' ∧
      Balanced document.toList := by
  rw [assemble_texts, Policy.check_strict_eq_ok_iff, fragmentDiagnostics_eq_nil_iff] at accepted
  obtain ⟨balanced, rfl⟩ := accepted
  have whole := Request.balanced_text_fragments balanced
  rw [Request.toList_text_fragments] at whole ⊢
  refine ⟨rfl, ?_, whole⟩
  rw [← List.cons_append, List.getLast?_concat]

/-- The braces at the ends of the first fragment do not belong together. -/
theorem assemble_fragments_balanced_siblings :
    assemble .strict (["\x7ba\x7d b \x7bc\x7d", " \x7b d \x7d\n", "", "e"].map .text) =
        .ok "\x7ba\x7d b \x7bc\nd\n\ne\x7d" ∧
      "\x7ba\x7d b \x7bc\nd\n\ne\x7d".toList.head? = some '{' ∧
      "\x7ba\x7d b \x7bc\nd\n\ne\x7d".toList.getLast? = some '}' ∧
      Balanced "\x7ba\x7d b \x7bc\nd\n\ne\x7d".toList := by
  have accepted : assemble .strict
      (["\x7ba\x7d b \x7bc\x7d", " \x7b d \x7d\n", "", "e"].map .text) =
        .ok "\x7ba\x7d b \x7bc\nd\n\ne\x7d" := by
    decide
  exact ⟨accepted, assemble_fragments_balanced _ _ accepted⟩

/-! ## Named operations -/

/-- A named operation by its parts. -/
structure NamedOperation where
  name : String
  parameters : Option Parameters := none
  selector : Selector

namespace NamedOperation

/-- The request for the operation. -/
def request (operation : NamedOperation) : Request :=
  .named operation.name operation.parameters operation.selector

/-- The name, the parameters, and the selection set in braces. -/
def body (operation : NamedOperation) : String :=
  operation.name ++ Request.segmentText operation.parameters ++ " \x7b\n" ++
    operation.selector.compile { depth := selectionDepth } ++ "\x7d"

/-- The text of an operation is its body on lines of its own inside a pair of braces. -/
theorem text_request (operation : NamedOperation) :
    operation.request.text = "\x7b\n" ++ operation.body ++ "\n\x7d" := by
  rw [String.ext_iff]
  simp [request, body, Request.text, Request.segmentText]

/-- The name starts the body, and a brace ends it. -/
theorem isTrimmed_body {operation : NamedOperation} (nonempty : operation.name ≠ "")
    (starts : ∀ c ∈ operation.name.toList.head?, isBlank c = false) :
    IsTrimmed operation.body.toList := by
  constructor
  · intro c member
    apply starts
    cases named : operation.name.toList with
    | nil => exact absurd (String.toList_eq_nil_iff.mp named) nonempty
    | cons first rest =>
        rw [body] at member
        simpa [named] using member
  · intro c member
    rw [body, String.toList_append, toList_closing, List.getLast?_concat] at member
    obtain rfl : '}' = c := by simpa using member
    decide

/-- **The body of an operation comes back from its text.** -/
theorem stripOuterBraces_text {operation : NamedOperation} (nonempty : operation.name ≠ "")
    (starts : ∀ c ∈ operation.name.toList.head?, isBlank c = false) :
    stripOuterBraces operation.request.text = operation.body := by
  have blank : ∀ c ∈ ['\n'], isBlank c = true := List.all_eq_true.mp (by decide)
  apply stripOuterBraces_of_enclosed _ blank blank (isTrimmed_body nonempty starts)
  have opening : "\x7b\n".toList = ['{', '\n'] := rfl
  have closing : "\n\x7d".toList = ['\n', '}'] := rfl
  rw [text_request, String.toList_append, String.toList_append, opening, closing]
  simp

end NamedOperation

/-- **Named operations are merged without loss.** Each has its body inside of its own
braces, and the document of all of them has the same bodies in order. The names must not
be empty or start with a blank. The parameters and the selectors may hold anything. -/
theorem merge_named_operations (operations : List NamedOperation)
    (started : ∀ operation ∈ operations, operation.name ≠ "" ∧
      ∀ c ∈ operation.name.toList.head?, isBlank c = false) :
    ∃ texts : List String,
      operations.map (fun operation => operation.request.render .lenient) = texts.map .ok ∧
        texts = operations.map (fun operation => "\x7b\n" ++ operation.body ++ "\n\x7d") ∧
          assemble .lenient (texts.map .text) =
            .ok ("\x7b" ++ "\n".intercalate (operations.map NamedOperation.body) ++ "\x7d") := by
  refine ⟨operations.map fun operation => operation.request.text, ?_, ?_, ?_⟩
  · rw [List.map_map]
    rfl
  · exact List.map_congr_left fun operation _ => operation.text_request
  · rw [assemble_texts, Policy.check_lenient, Request.text, List.map_map]
    have bodies : operations.map (stripOuterBraces ∘ fun operation => operation.request.text) =
        operations.map NamedOperation.body := by
      apply List.map_congr_left
      intro operation member
      obtain ⟨nonempty, starts⟩ := started operation member
      exact NamedOperation.stripOuterBraces_text nonempty starts
    rw [bodies]

/-- An operation with braces, quotes and blanks in its raw parameters, one with parameter
values, and one that selects nothing. -/
def mergedOperations : List NamedOperation :=
  [{ name := "a \x7b", parameters := some (.raw " \x7d\n\"\u3000"), selector := articleSelector },
    { name := "articles", parameters := some filterParameters, selector := .empty },
    { name := "\x7d", selector := .empty }]

theorem merge_named_operations_three :
    (∀ operation ∈ mergedOperations, operation.name ≠ "" ∧
      ∀ c ∈ operation.name.toList.head?, isBlank c = false) ∧
    ∃ texts : List String,
      mergedOperations.map (fun operation => operation.request.render .lenient) =
          texts.map .ok ∧
        texts = mergedOperations.map (fun operation => "\x7b\n" ++ operation.body ++ "\n\x7d") ∧
          assemble .lenient (texts.map .text) =
            .ok ("\x7b" ++ "\n".intercalate (mergedOperations.map NamedOperation.body) ++
              "\x7d") := by
  have started : ∀ operation ∈ mergedOperations, operation.name ≠ "" ∧
      ∀ c ∈ operation.name.toList.head?, isBlank c = false := by
    intro operation member
    rw [mergedOperations, List.mem_cons, List.mem_cons, List.mem_singleton] at member
    obtain rfl | rfl | rfl := member <;>
    · constructor
      · decide
      · rintro c ⟨⟩
        decide
  exact ⟨started, merge_named_operations _ started⟩

end GraphSelect
