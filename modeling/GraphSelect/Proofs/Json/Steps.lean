import GraphSelect.Proofs.Json.Layout
import GraphSelect.Proofs.Json.Scalars

/-!
# Laying out in steps

The three functions of the layout at a text whose front is known: a bracket, a scalar, a
comma, the name of a member. Each equation says which of the three goes on, and where.
A text that goes on with a value or a member begins with no blank and no closing bracket
(`Cursor.Begins`), so it is neither skipped nor taken for an end.

Laying out never goes back: what a document leaves is no longer than what was there
(`Document.length_value_le`).
-/

set_option autoImplicit false

namespace GraphSelect

open Text Cursor

namespace Cursor

/-- The text goes on with something else than a blank or a closing bracket. -/
def Begins (chars : List Char) : Prop :=
  ∃ first rest, chars = first :: rest ∧ isBlank first = false ∧ first ≠ ']' ∧ first ≠ '}'

theorem Begins.append {chars : List Char} (begins : Begins chars) (rest : List Char) :
    Begins (chars ++ rest) := by
  obtain ⟨first, others, rfl, opens⟩ := begins
  exact ⟨first, others ++ rest, rfl, opens⟩

theorem skipBlanks_of_begin {c : Char} (notBlank : isBlank c = false) (offset : Nat)
    (rest : List Char) : skipBlanks ⟨offset, c :: rest⟩ = ⟨offset, c :: rest⟩ := by
  simp [skipBlanks, notBlank]

end Cursor

/-! ## Equations of the layout -/

namespace Document

variable {stack outer : List Frame} {start offset : Nat} {rest : List Char}

theorem value_list {stop : Nat} {c : Char} {inner : List Char}
    (inside : skipBlanks ⟨offset + 1, rest⟩ = ⟨stop, c :: inner⟩) :
    value stack ⟨offset, '[' :: rest⟩ =
      if c = ']' then complete stack (.list offset [] (.closed (stop + 1))) ⟨stop + 1, inner⟩
      else value (.list offset [] :: stack) ⟨stop, c :: inner⟩ := by
  rw [value]
  split
  · next here => cases here
  · next here =>
      rw [skipBlanks_of_begin rfl] at here
      cases here
      rw [if_pos rfl]
      split
      · next ends =>
          rw [inside] at ends
          cases ends
      · next goesOn =>
          rw [inside] at goesOn
          cases goesOn
          rfl

theorem value_list_open (begins : Begins rest) :
    value stack ⟨offset, '[' :: rest⟩ = value (.list offset [] :: stack) ⟨offset + 1, rest⟩ := by
  obtain ⟨first, others, rfl, notBlank, notClosing, -⟩ := begins
  rw [value_list (skipBlanks_of_begin notBlank _ _), if_neg notClosing]

theorem value_object {stop : Nat} {c : Char} {inner : List Char}
    (inside : skipBlanks ⟨offset + 1, rest⟩ = ⟨stop, c :: inner⟩) :
    value stack ⟨offset, '{' :: rest⟩ =
      if c = '}' then complete stack (.object offset [] (.closed (stop + 1))) ⟨stop + 1, inner⟩
      else member offset [] stack ⟨stop, c :: inner⟩ := by
  rw [value]
  split
  · next here => cases here
  · next here =>
      rw [skipBlanks_of_begin rfl] at here
      cases here
      rw [if_neg (by decide), if_pos rfl]
      split
      · next ends =>
          rw [inside] at ends
          cases ends
      · next goesOn =>
          rw [inside] at goesOn
          cases goesOn
          rfl

theorem value_object_open (begins : Begins rest) :
    value stack ⟨offset, '{' :: rest⟩ = member offset [] stack ⟨offset + 1, rest⟩ := by
  obtain ⟨first, others, rfl, notBlank, -, notClosing⟩ := begins
  rw [value_object (skipBlanks_of_begin notBlank _ _), if_neg notClosing]

theorem value_scalar {first : Char} {json : Json} {next : Cursor}
    (notBlank : Cursor.isBlank first = false) (notList : first ≠ '[') (notObject : first ≠ '{')
    (lexeme : scalarLexeme offset first rest = .good json next) :
    value stack ⟨offset, first :: rest⟩ =
      complete stack (.scalar offset next.offset json) next := by
  rw [value]
  split
  · next here =>
      rw [skipBlanks_of_begin notBlank] at here
      cases here
  · next here =>
      rw [skipBlanks_of_begin notBlank] at here
      cases here
      rw [if_neg notList, if_neg notObject]
      split
      · next found =>
          rw [lexeme] at found
          cases found
          rfl
      · next found =>
          rw [lexeme] at found
          cases found
      · next found =>
          rw [lexeme] at found
          cases found

theorem complete_list_closed {items : List Node} {node : Node} :
    complete (.list start items :: outer) node ⟨offset, ']' :: rest⟩ =
      complete outer (.list start (node :: items).reverse (.closed (offset + 1)))
        ⟨offset + 1, rest⟩ := by
  rw [complete]
  split
  · next here => cases here
  · next here =>
      rw [skipBlanks_of_begin rfl] at here
      cases here
      rw [if_pos rfl]

theorem complete_list_comma {items : List Node} {node : Node} (begins : Begins rest) :
    complete (.list start items :: outer) node ⟨offset, ',' :: rest⟩ =
      value (.list start (node :: items) :: outer) ⟨offset + 1, rest⟩ := by
  obtain ⟨first, others, rfl, notBlank, notClosing, -⟩ := begins
  rw [complete]
  split
  · next here => cases here
  · next here =>
      rw [skipBlanks_of_begin rfl] at here
      cases here
      rw [if_neg (by decide), if_pos rfl]
      split
      · next inside =>
          rw [skipBlanks_of_begin notBlank] at inside
          cases inside
      · next inside =>
          rw [skipBlanks_of_begin notBlank] at inside
          cases inside
          rw [if_neg notClosing]

theorem complete_object_closed {members : List (Key × Node)} {key : Key} {node : Node} :
    complete (.object start members key :: outer) node ⟨offset, '}' :: rest⟩ =
      complete outer (.object start ((key, node) :: members).reverse (.closed (offset + 1)))
        ⟨offset + 1, rest⟩ := by
  rw [complete]
  split
  · next here => cases here
  · next here =>
      rw [skipBlanks_of_begin rfl] at here
      cases here
      rw [if_pos rfl]

theorem complete_object_comma {members : List (Key × Node)} {key : Key} {node : Node}
    (begins : Begins rest) :
    complete (.object start members key :: outer) node ⟨offset, ',' :: rest⟩ =
      member start ((key, node) :: members) outer ⟨offset + 1, rest⟩ := by
  obtain ⟨first, others, rfl, notBlank, -, notClosing⟩ := begins
  rw [complete]
  split
  · next here => cases here
  · next here =>
      rw [skipBlanks_of_begin rfl] at here
      cases here
      rw [if_neg (by decide), if_pos rfl]
      split
      · next inside =>
          rw [skipBlanks_of_begin notBlank] at inside
          cases inside
      · next inside =>
          rw [skipBlanks_of_begin notBlank] at inside
          cases inside
          rw [if_neg notClosing]

/-- A quoted name and a colon are the key of a member whose value comes next. -/
theorem member_key (stack : List Frame) (start : Nat) (members : List (Key × Node))
    (name : String) (offset : Nat) (rest : List Char) :
    ∃ key stop, key.text = .ok name ∧
      member start members stack ⟨offset, (quoted name).toList ++ ':' :: rest⟩ =
        value (.object start members key :: stack) ⟨stop, rest⟩ := by
  obtain ⟨stop, lexeme⟩ := stringLexeme_quoted name (':' :: rest) (offset + 1)
  have chars : (quoted name).toList ++ ':' :: rest =
      '"' :: (name.toList.flatMap escaped ++ '"' :: ':' :: rest) := by
    rw [toList_quoted, List.cons_append, List.append_assoc, List.singleton_append]
  have place : keyPlace ⟨offset, (quoted name).toList ++ ':' :: rest⟩ =
      .key ⟨.ok name, stop⟩ ⟨stop + 1, rest⟩ := by
    rw [chars]
    simp only [keyPlace, lexeme]
    rw [afterKey, skipBlanks_of_begin rfl]
    rfl
  refine ⟨⟨.ok name, stop⟩, stop + 1, rfl, ?_⟩
  rw [member]
  split
  · next found =>
      rw [place] at found
      cases found
      rfl
  all_goals
    next found =>
      rw [place] at found
      cases found

/-! ## Progress -/

theorem after_abandon {cursor : Cursor} {node : Node} {stack : List Frame} :
    (abandon cursor node stack).after = cursor := by
  induction stack generalizing node with
  | nil => rfl
  | cons frame outer ih =>
      cases frame with
      | list start items => exact ih
      | object start members key => exact ih

theorem length_abandon_le (cursor : Cursor) (node : Node) (stack : List Frame) :
    (abandon cursor node stack).after.rest.length ≤ cursor.rest.length :=
  Nat.le_of_eq (by rw [after_abandon])

-- The induction is the one of the layout itself: each call is on a shorter rest, and what it
-- leaves is bounded by that rest.
mutual

/-- What is left after a value is no longer than the text in which it was due. -/
theorem length_value_le (stack : List Frame) (cursor : Cursor) :
    (value stack cursor).after.rest.length ≤ cursor.rest.length := by
  unfold value
  split
  · exact length_abandon_le ..
  · rename_i offset first rest here
    have outside := Cursor.length_lt_of_skipBlanks here
    split
    · split
      · exact length_abandon_le ..
      · rename_i stop c rest' inside
        have := Cursor.length_lt_of_skipBlanks inside
        split
        · apply Nat.le_trans (length_complete_le _ _ _)
          simp only at *
          omega
        · apply Nat.le_trans (length_value_le _ _)
          simp only [List.length_cons] at *
          omega
    · split
      · split
        · exact length_abandon_le ..
        · rename_i stop c rest' inside
          have := Cursor.length_lt_of_skipBlanks inside
          split
          · apply Nat.le_trans (length_complete_le _ _ _)
            simp only at *
            omega
          · apply Nat.le_trans (length_member_le _ _ _ _)
            simp only [List.length_cons] at *
            omega
      · split
        · rename_i json next found
          have := Cursor.length_le_of_scalarLexeme (congrArg Lexeme.next? found)
          exact Nat.le_trans (length_complete_le _ _ _) (Nat.le_trans this (Nat.le_of_lt outside))
        · rename_i failure next found
          have := Cursor.length_le_of_scalarLexeme (congrArg Lexeme.next? found)
          exact Nat.le_trans (length_complete_le _ _ _) (Nat.le_trans this (Nat.le_of_lt outside))
        · exact length_abandon_le ..
termination_by cursor.rest.length
decreasing_by all_goals (simp only [List.length_cons] at *; omega)

theorem length_member_le (start : Nat) (members : List (Key × Node)) (stack : List Frame)
    (cursor : Cursor) :
    (member start members stack cursor).after.rest.length ≤ cursor.rest.length := by
  unfold member
  split
  · rename_i key next found
    have := Cursor.length_lt_of_keyPlace found
    exact Nat.le_trans (length_value_le _ _) (Nat.le_of_lt this)
  · exact length_abandon_le ..
  · exact length_abandon_le ..
  · exact length_abandon_le ..
termination_by cursor.rest.length
decreasing_by assumption

theorem length_complete_le (stack : List Frame) (node : Node) (cursor : Cursor) :
    (complete stack node cursor).after.rest.length ≤ cursor.rest.length := by
  unfold complete
  split
  · exact Nat.le_refl _
  · split
    · exact length_abandon_le ..
    · rename_i offset c rest here
      have outside := Cursor.length_lt_of_skipBlanks here
      split
      · exact Nat.le_trans (length_complete_le _ _ _) (Nat.le_of_lt outside)
      · split
        · split
          · exact length_abandon_le ..
          · rename_i stop c rest' inside
            have := Cursor.length_lt_of_skipBlanks inside
            split
            · exact length_abandon_le ..
            · apply Nat.le_trans (length_value_le _ _)
              simp only [List.length_cons] at *
              omega
        · exact length_abandon_le ..
  · split
    · exact length_abandon_le ..
    · rename_i offset c rest here
      have outside := Cursor.length_lt_of_skipBlanks here
      split
      · exact Nat.le_trans (length_complete_le _ _ _) (Nat.le_of_lt outside)
      · split
        · split
          · exact length_abandon_le ..
          · rename_i stop c rest' inside
            have := Cursor.length_lt_of_skipBlanks inside
            split
            · exact length_abandon_le ..
            · apply Nat.le_trans (length_member_le _ _ _ _)
              simp only [List.length_cons] at *
              omega
        · exact length_abandon_le ..
termination_by cursor.rest.length
decreasing_by all_goals (simp only [List.length_cons] at *; omega)

end

end Document

end GraphSelect
