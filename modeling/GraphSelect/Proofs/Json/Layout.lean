import GraphSelect.Json.Document

/-!
# The nodes of a document

Laying out a text puts every list and every object of it into a node of its own. The
values in the scalar nodes of a document are therefore no containers
(`Document.genuine_ofText`).
-/

set_option autoImplicit false

namespace GraphSelect

/-- The value is neither a list nor an object. -/
def Json.isScalar : Json → Bool
  | .array _ => false
  | .object _ => false
  | _ => true

/-- A node whose scalars, at every depth, hold no containers. -/
inductive Node.Genuine : Node → Prop where
  | scalar {start stop : Nat} {value : Json} (isScalar : value.isScalar) :
      Genuine (.scalar start stop value)
  | unreadable (start : Nat) (failure : Failure) : Genuine (.unreadable start failure)
  | broken (start : Nat) (reading skimming : Failure) : Genuine (.broken start reading skimming)
  | list {start : Nat} {items : List Node} {ending : Ending}
      (inside : ∀ item ∈ items, Genuine item) : Genuine (.list start items ending)
  | object {start : Nat} {members : List (Key × Node)} {ending : Ending}
      (inside : ∀ member ∈ members, Genuine member.2) : Genuine (.object start members ending)

/-- A container that is open and whose nodes are genuine. -/
def Frame.Genuine : Frame → Prop
  | .list _ items => ∀ item ∈ items, item.Genuine
  | .object _ members _ => ∀ member ∈ members, member.2.Genuine

/-! ## Scalars -/

namespace Cursor

theorem isScalar_of_wordLexeme {letters : List Char} {value found : Json}
    {cursor next : Cursor} (word : value.isScalar)
    (lexeme : cursor.wordLexeme letters value = .good found next) : found.isScalar := by
  unfold wordLexeme at lexeme
  split at lexeme
  · cases lexeme
    exact word
  · cases lexeme

theorem isScalar_of_map {α : Type} {wrap : α → Json} {lexeme : Lexeme α} {found : Json}
    {next : Cursor} (wraps : ∀ value, (wrap value).isScalar)
    (good : lexeme.map wrap = .good found next) : found.isScalar := by
  cases lexeme with
  | good value after =>
      cases good
      exact wraps value
  | unreadable failure after => cases good
  | broken reading skimming => cases good

theorem isScalar_of_scalarLexeme {offset : Nat} {first : Char} {rest : List Char}
    {found : Json} {next : Cursor} (lexeme : scalarLexeme offset first rest = .good found next) :
    found.isScalar := by
  unfold scalarLexeme at lexeme
  simp only at lexeme
  split at lexeme
  · exact isScalar_of_wordLexeme rfl lexeme
  split at lexeme
  · exact isScalar_of_wordLexeme rfl lexeme
  split at lexeme
  · exact isScalar_of_wordLexeme rfl lexeme
  split at lexeme
  · exact isScalar_of_map (fun _ => rfl) lexeme
  split at lexeme
  · exact isScalar_of_map (fun _ => rfl) lexeme
  · cases lexeme

/-- The node that stands for a missing value is broken. -/
theorem genuine_of_colonMissing {cursor : Cursor} {key : Key} {node : Node}
    (place : cursor.keyPlace = .colonMissing key node) : node.Genuine := by
  have ofAfterKey {text : Except Failure String} {middle : Cursor}
      (after : middle.afterKey text = .colonMissing key node) : node.Genuine := by
    unfold afterKey at after
    split at after
    · cases after
      exact .broken ..
    · split at after
      · cases after
      · cases after
        exact .broken ..
  unfold keyPlace at place
  split at place
  · split at place
    · exact ofAfterKey place
    · exact ofAfterKey place
    · cases place
  · cases place

end Cursor

/-! ## Containers -/

/-- A list frame that ends after one more node is a genuine list. -/
theorem Node.Genuine.list_reverse {start : Nat} {items : List Node} {node : Node}
    {ending : Ending} (before : Frame.Genuine (.list start items)) (last : node.Genuine) :
    (Node.list start (node :: items).reverse ending).Genuine := by
  refine .list fun item member => ?_
  rcases List.mem_cons.mp (List.mem_reverse.mp member) with rfl | member
  · exact last
  · exact before item member

/-- An object frame that ends after the value of its key is a genuine object. -/
theorem Node.Genuine.object_reverse {start : Nat} {members : List (Key × Node)} {key : Key}
    {node : Node} {ending : Ending} (before : ∀ member ∈ members, member.2.Genuine)
    (last : node.Genuine) :
    (Node.object start ((key, node) :: members).reverse ending).Genuine := by
  refine .object fun member listed => ?_
  rcases List.mem_cons.mp (List.mem_reverse.mp listed) with rfl | listed
  · exact last
  · exact before member listed

theorem Node.Genuine.list_nil {start : Nat} {ending : Ending} :
    (Node.list start [] ending).Genuine := .list (List.forall_mem_nil _)

theorem Node.Genuine.object_nil {start : Nat} {ending : Ending} :
    (Node.object start [] ending).Genuine := .object (List.forall_mem_nil _)

namespace Document

/-- A document that is abandoned at a genuine node is genuine. -/
theorem genuine_abandon {cursor : Cursor} {node : Node} {stack : List Frame}
    (last : node.Genuine) (frames : ∀ frame ∈ stack, frame.Genuine) :
    (abandon cursor node stack).root.Genuine := by
  induction stack generalizing node with
  | nil => exact last
  | cons frame outer ih =>
      rw [List.forall_mem_cons] at frames
      cases frame with
      | list start items => exact ih (.list_reverse frames.1 last) frames.2
      | object start members key => exact ih (.object_reverse frames.1 last) frames.2

-- The three functions of the layout call each other on shorter rests, and so do these lemmas.
-- What they carry is that every open container is genuine so far.
mutual

/-- Laying out a value inside genuine containers gives a genuine document. -/
theorem genuine_value (stack : List Frame) (cursor : Cursor)
    (frames : ∀ frame ∈ stack, frame.Genuine) : (value stack cursor).root.Genuine := by
  unfold value
  split
  · exact genuine_abandon (.broken ..) frames
  · rename_i offset first rest here
    have outside := Cursor.length_lt_of_skipBlanks here
    split
    · split
      · exact genuine_abandon .list_nil frames
      · rename_i stop c rest' inside
        have := Cursor.length_lt_of_skipBlanks inside
        split
        · exact genuine_complete stack _ _ .list_nil frames
        · exact genuine_value _ _ (List.forall_mem_cons.mpr
            ⟨List.forall_mem_nil _, frames⟩)
    · split
      · split
        · exact genuine_abandon .object_nil frames
        · rename_i stop c rest' inside
          have := Cursor.length_lt_of_skipBlanks inside
          split
          · exact genuine_complete stack _ _ .object_nil frames
          · exact genuine_member _ _ _ _ (List.forall_mem_nil _) frames
      · split
        · rename_i json next found
          have := Cursor.length_le_of_scalarLexeme (congrArg Lexeme.next? found)
          exact genuine_complete stack _ _ (.scalar (Cursor.isScalar_of_scalarLexeme found)) frames
        · rename_i failure next found
          have := Cursor.length_le_of_scalarLexeme (congrArg Lexeme.next? found)
          exact genuine_complete stack _ _ (.unreadable ..) frames
        · exact genuine_abandon (.broken ..) frames
termination_by cursor.rest.length
decreasing_by all_goals (simp only [List.length_cons] at *; omega)

theorem genuine_member (start : Nat) (members : List (Key × Node)) (stack : List Frame)
    (cursor : Cursor) (before : ∀ member ∈ members, member.2.Genuine)
    (frames : ∀ frame ∈ stack, frame.Genuine) :
    (member start members stack cursor).root.Genuine := by
  unfold member
  have closed : ∀ ending, (Node.object start members.reverse ending).Genuine := fun _ =>
    .object fun member listed => before member (List.mem_reverse.mp listed)
  split
  · rename_i key next found
    have := Cursor.length_lt_of_keyPlace found
    exact genuine_value _ _ (List.forall_mem_cons.mpr ⟨before, frames⟩)
  · rename_i key node found
    exact genuine_abandon (.object_reverse before (Cursor.genuine_of_colonMissing found)) frames
  · exact genuine_abandon (closed _) frames
  · exact genuine_abandon (closed _) frames
termination_by cursor.rest.length
decreasing_by assumption

theorem genuine_complete (stack : List Frame) (node : Node) (cursor : Cursor)
    (last : node.Genuine) (frames : ∀ frame ∈ stack, frame.Genuine) :
    (complete stack node cursor).root.Genuine := by
  unfold complete
  split
  · exact last
  · rename_i start items outer
    rw [List.forall_mem_cons] at frames
    obtain ⟨before, frames⟩ := frames
    split
    · exact genuine_abandon (.list_reverse before last) frames
    · rename_i offset c rest here
      have outside := Cursor.length_lt_of_skipBlanks here
      split
      · exact genuine_complete _ _ _ (.list_reverse before last) frames
      · split
        · split
          · exact genuine_abandon (.list_reverse before last) frames
          · rename_i stop c rest' inside
            have := Cursor.length_lt_of_skipBlanks inside
            split
            · exact genuine_abandon (.list_reverse before last) frames
            · exact genuine_value _ _ (List.forall_mem_cons.mpr
                ⟨List.forall_mem_cons.mpr ⟨last, before⟩, frames⟩)
        · exact genuine_abandon (.list_reverse before last) frames
  · rename_i start members key outer
    rw [List.forall_mem_cons] at frames
    obtain ⟨before, frames⟩ := frames
    split
    · exact genuine_abandon (.object_reverse before last) frames
    · rename_i offset c rest here
      have outside := Cursor.length_lt_of_skipBlanks here
      split
      · exact genuine_complete _ _ _ (.object_reverse before last) frames
      · split
        · split
          · exact genuine_abandon (.object_reverse before last) frames
          · rename_i stop c rest' inside
            have := Cursor.length_lt_of_skipBlanks inside
            split
            · exact genuine_abandon (.object_reverse before last) frames
            · exact genuine_member _ _ _ _ (List.forall_mem_cons.mpr ⟨last, before⟩) frames
        · exact genuine_abandon (.object_reverse before last) frames
termination_by cursor.rest.length
decreasing_by all_goals (simp only [List.length_cons] at *; omega)

end

/-- **The scalars of a document hold no containers.** -/
theorem genuine_ofText (text : String) : (ofText text).root.Genuine :=
  genuine_value [] (.ofText text) (List.forall_mem_nil _)

end Document
end GraphSelect
