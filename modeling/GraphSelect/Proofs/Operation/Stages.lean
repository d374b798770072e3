import GraphSelect.Proofs.Operation.Merging

/-!
# Merging in stages

A stripped fragment begins and ends without a blank. When no fragment of a group is empty
by then, neither does the text of the group on lines of its own. Stripping the document of
the group then takes off just the braces that merging has put around it
(`stripOuterBraces_document`).

What is left of the document is the stripped fragments of the group, so merging the
documents of some groups is merging all their fragments at once (`merge_in_stages`).
-/

set_option autoImplicit false

namespace GraphSelect

open Text

/-! ## Solid text -/

/-- Text that begins and ends with characters that are no blanks. -/
structure Text.IsSolid (chars : List Char) : Prop where
  trimmed : IsTrimmed chars
  nonempty : chars ≠ []

namespace Text.IsSolid

/-- The whole is solid, whatever stands between two solid texts. -/
theorem append {first second : List Char} (front : IsSolid first) (between : List Char)
    (back : IsSolid second) : IsSolid (first ++ between ++ second) := by
  refine ⟨⟨?_, ?_⟩, ?_⟩
  · intro c member
    rw [List.append_assoc, List.head?_append_of_ne_nil _ front.nonempty] at member
    exact front.trimmed.starts c member
  · intro c member
    rw [List.getLast?_append_of_ne_nil _ back.nonempty] at member
    exact back.trimmed.ends c member
  · intro none
    exact back.nonempty (List.append_eq_nil_iff.mp none).2

/-- Solid texts are solid with a separator between them. -/
theorem intercalate (separator : List Char) {texts : List (List Char)} (filled : texts ≠ [])
    (each : ∀ text ∈ texts, IsSolid text) : IsSolid (separator.intercalate texts) := by
  induction texts with
  | nil => exact absurd rfl filled
  | cons text rest ih =>
      rw [List.forall_mem_cons] at each
      by_cases last : rest = []
      · rw [last, List.intercalate_singleton]
        exact each.1
      · rw [List.intercalate_cons_of_ne_nil last]
        exact each.1.append separator (ih last each.2)

end Text.IsSolid

/-- What stripping leaves is solid, if there is anything left. -/
theorem Text.isSolid_stripOuterBraces {fragment : String} (left : stripOuterBraces fragment ≠ "") :
    IsSolid (stripOuterBraces fragment).toList where
  trimmed := by
    rw [stripOuterBraces, String.toList_ofList]
    exact isTrimmed_trim _
  nonempty none := left (String.toList_eq_nil_iff.mp none)

/-! ## The document of a group -/

/-- The stripped fragments on lines of their own. -/
def strippedLines (fragments : List String) : String :=
  "\n".intercalate (fragments.map stripOuterBraces)

theorem Request.text_fragments (fragments : List String) :
    (Request.fragments fragments).text = "\x7b" ++ strippedLines fragments ++ "\x7d" := rfl

theorem isSolid_strippedLines {group : List String} (filled : group ≠ [])
    (left : ∀ fragment ∈ group, stripOuterBraces fragment ≠ "") :
    IsSolid (strippedLines group).toList := by
  rw [strippedLines, String.toList_intercalate]
  apply IsSolid.intercalate
  · rwa [List.map_map, Ne, List.map_eq_nil_iff]
  · intro text member
    obtain ⟨stripped, listed, rfl⟩ := List.mem_map.mp member
    obtain ⟨fragment, inGroup, rfl⟩ := List.mem_map.mp listed
    exact isSolid_stripOuterBraces (left fragment inGroup)

/-- **Stripping the document of a group leaves its stripped fragments.** -/
theorem stripOuterBraces_document {group : List String} (filled : group ≠ [])
    (left : ∀ fragment ∈ group, stripOuterBraces fragment ≠ "") :
    stripOuterBraces (Request.fragments group).text = strippedLines group := by
  have noBlank : ∀ c ∈ ([] : List Char), isBlank c = true := List.forall_mem_nil _
  apply stripOuterBraces_of_enclosed _ noBlank noBlank (isSolid_strippedLines filled left).trimmed
  rw [Request.text_fragments, String.toList_append, String.toList_append, toList_opening,
    toList_closing]
  simp

/-- The lines of some groups are the lines of all their fragments. -/
theorem intercalate_strippedLines {groups : List (List String)}
    (filled : ∀ group ∈ groups, group ≠ []) :
    "\n".intercalate (groups.map strippedLines) = strippedLines groups.flatten := by
  induction groups with
  | nil => rfl
  | cons group rest ih =>
      rw [List.forall_mem_cons] at filled
      cases rest with
      | nil => rw [List.map_singleton, String.intercalate_singleton, List.flatten_singleton]
      | cons next others =>
          have here : group.map stripOuterBraces ≠ [] := by
            rw [Ne, List.map_eq_nil_iff]
            exact filled.1
          have behind : (next :: others).flatten.map stripOuterBraces ≠ [] := by
            rw [Ne, List.map_eq_nil_iff, List.flatten_cons, List.append_eq_nil_iff]
            exact fun none => filled.2 next List.mem_cons_self none.1
          calc "\n".intercalate ((group :: next :: others).map strippedLines)
              = strippedLines group ++ "\n" ++
                  "\n".intercalate ((next :: others).map strippedLines) :=
                String.intercalate_cons_cons
            _ = strippedLines group ++ "\n" ++ strippedLines (next :: others).flatten := by
                rw [ih filled.2]
            _ = strippedLines (group ++ (next :: others).flatten) := by
                rw [strippedLines, strippedLines, strippedLines, List.map_append,
                  String.intercalate_append_of_ne_nil here behind]

/-! ## Stages -/

/-- **Merging in stages is merging at once.** Some groups of fragments are merged, and then
the documents that they give. No group is empty, and no fragment becomes empty when it is
stripped. The result is the document of all the fragments in order; for one group, merging
its document again gives the same document. -/
theorem merge_in_stages (groups : List (List String)) (filled : ∀ group ∈ groups, group ≠ [])
    (left : ∀ group ∈ groups, ∀ fragment ∈ group, stripOuterBraces fragment ≠ "") :
    ∃ documents : List String,
      groups.map (fun group => assemble .lenient (group.map .text)) = documents.map .ok ∧
        ∃ document, assemble .lenient (groups.flatten.map .text) = .ok document ∧
          assemble .lenient (documents.map .text) = .ok document := by
  refine ⟨groups.map fun group => (Request.fragments group).text, ?_,
    (Request.fragments groups.flatten).text, ?_, ?_⟩
  · rw [List.map_map]
    apply List.map_congr_left
    intro group _
    exact assemble_texts .lenient group
  · exact assemble_texts .lenient groups.flatten
  · have stripped : groups.map (stripOuterBraces ∘ fun group => (Request.fragments group).text) =
        groups.map strippedLines := by
      apply List.map_congr_left
      intro group listed
      exact stripOuterBraces_document (filled group listed) (left group listed)
    have lines : strippedLines (groups.map fun group => (Request.fragments group).text) =
        strippedLines groups.flatten := by
      rw [strippedLines, List.map_map, stripped, intercalate_strippedLines filled]
    rw [assemble_texts, Request.text_fragments, lines, ← Request.text_fragments]
    rfl

/-- Fragments with braces of several groups, of one group, with an unmatched brace, and
without any. -/
def stagedFragments : List (List String) :=
  [["\x7b a \x7d \x7b b \x7d", " c\u3000"], ["\n\x7bd \x7b e \x7d\x7d", "\x7b", "\x7d"]]

theorem merge_in_stages_two :
    (∀ group ∈ stagedFragments, group ≠ []) ∧
    (∀ group ∈ stagedFragments, ∀ fragment ∈ group, stripOuterBraces fragment ≠ "") ∧
    ∃ documents : List String,
      stagedFragments.map (fun group => assemble .lenient (group.map .text)) =
          documents.map .ok ∧
        ∃ document, assemble .lenient (stagedFragments.flatten.map .text) = .ok document ∧
          assemble .lenient (documents.map .text) = .ok document := by
  have filled : ∀ group ∈ stagedFragments, group ≠ [] := by decide
  have left : ∀ group ∈ stagedFragments, ∀ fragment ∈ group, stripOuterBraces fragment ≠ "" := by
    decide
  exact ⟨filled, left, merge_in_stages _ filled left⟩

end GraphSelect
