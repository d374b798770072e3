import GraphSelect.Proofs.Selection.Outline
import GraphSelect.Proofs.Text.Balance

/-!
# Selection sets as nested text

The text of a selection set is nested: the names and the layout are its pieces, and the
braces come in pairs around the bodies of its blocks (`Selector.nested_compile`). What
counts as a piece is left open. It is for the reader of the text to say which names mean
nothing to it.
-/

set_option autoImplicit false

namespace GraphSelect

open Text

/-- What stands between the names and braces of a selection set is nested text. -/
structure NestedLayout (piece : List Char → Prop) (unit : String) : Prop where
  indent : Nested piece unit.toList
  space : Nested piece [' ']
  newline : Nested piece ['\n']

namespace Selection

variable {piece : List Char → Prop} {unit : String}

theorem nested_margin (layout : NestedLayout piece unit) (depth : Nat) :
    Nested piece (margin unit depth).toList := by
  unfold margin
  split
  · exact .nil
  · rw [String.toList_join]
    induction depth with
    | zero => exact .nil
    | succ outer ih =>
        rw [List.replicate_succ, List.flatMap_cons]
        exact layout.indent.append ih

theorem nested_closingEnd (layout : NestedLayout piece unit) :
    Nested piece (closingEnd unit).toList := by
  unfold closingEnd
  split
  · exact .nil
  · exact layout.newline

mutual

/-- The text of an entry is nested text when its names are. -/
theorem nested_text (layout : NestedLayout piece unit) : ∀ (entry : Selection) (depth : Nat),
    (∀ name ∈ names entry, Nested piece name.toList) →
      Nested piece (text unit depth entry).toList
  | leaf name, depth, named => by
      have here : Nested piece name.toList := named name (by simp [names])
      simp only [text, String.toList_append]
      exact ((nested_margin layout depth).append here).append layout.newline
  | block name body, depth, named => by
      have here : Nested piece name.toList := named name (by simp [names])
      have within := nested_textOfAll layout body (depth + 1) fun inner member =>
        named inner (by simp [names, member])
      have margins := nested_margin layout depth
      have head : " \x7b\n".toList = [' ', '{', '\n'] := rfl
      have foot : "\x7d".toList = ['}'] := rfl
      have group := (layout.newline.append (within.append margins)).braces
      have line := ((margins.append here).append layout.space).append group
      simpa [text, head, foot] using line.append (nested_closingEnd layout)

theorem nested_textOfAll (layout : NestedLayout piece unit) :
    ∀ (entries : List Selection) (depth : Nat),
      (∀ name ∈ namesOfAll entries, Nested piece name.toList) →
        Nested piece (textOfAll unit depth entries).toList
  | [], _, _ => .nil
  | first :: rest, depth, named => by
      have front := nested_text layout first depth fun name member =>
        named name (by simp [namesOfAll, member])
      have back := nested_textOfAll layout rest depth fun name member =>
        named name (by simp [namesOfAll, member])
      simp only [textOfAll, String.toList_append]
      exact front.append back

end

end Selection

/-- **The text of a selector is nested text** when its names and the layout are. -/
theorem Selector.nested_compile {piece : List Char → Prop} (selector : Selector)
    (options : CompileOptions) (layout : NestedLayout piece options.unit)
    (named : ∀ name ∈ options.included ++ selector.names, Nested piece name.toList) :
    Nested piece (selector.compile options).toList :=
  Selection.nested_textOfAll layout _ _ fun name member =>
    named name (List.mem_append.mpr (selector.mem_names_of_selections _ name member))

end GraphSelect
