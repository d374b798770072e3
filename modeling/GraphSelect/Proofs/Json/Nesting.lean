import GraphSelect.Proofs.Json.Tree
import GraphSelect.Proofs.Number.Text
import GraphSelect.Proofs.Text.Literals

/-!
# Braces in the text of a value

Two readings of the braces in the text of a JSON value. For a reader that knows string
literals the text is nested, whatever the strings of the value hold
(`Json.nested_text`). A reader of raw characters meets the braces of the strings too, in
order and next to those of the objects (`Json.bracesOf_text`). It finds its depth again
when every string of the value is balanced (`Json.balanced_braces`).
-/

set_option autoImplicit false

namespace GraphSelect

open Text

/-! ## With string literals -/

/-- **The text of a value is nested text.** -/
theorem Json.nested_text (json : Json) : Nested IsPiece json.text.toList := by
  induction json using Json.induction with
  | null => exact .of_isPlain (by decide)
  | bool value => cases value <;> exact .of_isPlain (by decide)
  | number number => exact .of_isPlain fun c member => (number.isNumeric_text c member).plain
  | string text => exact .of_piece (.quoted text)
  | array items ih =>
      have separator : Nested IsPiece [','] := .of_isPlain (by decide)
      have inside :
          Nested IsPiece ([','].intercalate (items.map fun item => item.text.toList)) := by
        apply separator.intercalate
        intro text member
        obtain ⟨item, listed, rfl⟩ := List.mem_map.mp member
        exact ih item listed
      rw [toList_text_array, ← List.singleton_append]
      exact .append (.of_isPlain (by decide)) (.append inside (.of_isPlain (by decide)))
  | object members ih =>
      have separator : Nested IsPiece [','] := .of_isPlain (by decide)
      have colon : Nested IsPiece [':'] := .of_isPlain (by decide)
      rw [toList_text_object]
      apply Nested.braces
      apply separator.intercalate
      intro text inTexts
      obtain ⟨member, listed, rfl⟩ := List.mem_map.mp inTexts
      rw [← List.singleton_append]
      exact .append (.of_piece (.quoted _)) (.append colon (ih member listed))

/-! ## With raw characters -/

namespace Json

mutual

/-- The braces in the text of a value: those in its strings and those of its objects, in
order. -/
def braces : Json → List Char
  | string text => bracesOf text.toList
  | array items => bracesOfItems items
  | object members => '{' :: (bracesOfMembers members ++ ['}'])
  | _ => []

/-- The braces of every item. -/
def bracesOfItems : List Json → List Char
  | [] => []
  | first :: rest => braces first ++ bracesOfItems rest

/-- The braces of every name and value. -/
def bracesOfMembers : List (String × Json) → List Char
  | [] => []
  | (name, value) :: rest => bracesOf name.toList ++ braces value ++ bracesOfMembers rest

end

mutual

/-- Every string of a value, member names included. -/
def strings : Json → List String
  | string text => [text]
  | array items => stringsOfItems items
  | object members => stringsOfMembers members
  | _ => []

/-- The strings of every item. -/
def stringsOfItems : List Json → List String
  | [] => []
  | first :: rest => strings first ++ stringsOfItems rest

/-- Every name, with the strings of its value. -/
def stringsOfMembers : List (String × Json) → List String
  | [] => []
  | (name, value) :: rest => name :: strings value ++ stringsOfMembers rest

end

theorem bracesOfItems_eq_flatMap (items : List Json) :
    bracesOfItems items = items.flatMap braces := by
  induction items with
  | nil => rfl
  | cons first rest ih => rw [bracesOfItems, ih, List.flatMap_cons]

theorem bracesOfMembers_eq_flatMap (members : List (String × Json)) :
    bracesOfMembers members =
      members.flatMap fun member => bracesOf member.1.toList ++ braces member.2 := by
  induction members with
  | nil => rfl
  | cons first rest ih => rw [bracesOfMembers, ih, List.flatMap_cons]

theorem stringsOfItems_eq_flatMap (items : List Json) :
    stringsOfItems items = items.flatMap strings := by
  induction items with
  | nil => rfl
  | cons first rest ih => rw [stringsOfItems, ih, List.flatMap_cons]

theorem stringsOfMembers_eq_flatMap (members : List (String × Json)) :
    stringsOfMembers members = members.flatMap fun member => member.1 :: strings member.2 := by
  induction members with
  | nil => rfl
  | cons first rest ih => rw [stringsOfMembers, ih, List.flatMap_cons]

/-- **The braces in the text of a value are those of its strings and its objects.** -/
theorem bracesOf_text (json : Json) : bracesOf json.text.toList = json.braces := by
  induction json using Json.induction with
  | null => rfl
  | bool value => cases value <;> rfl
  | number number =>
      have free : BraceFree number.text.toList := fun c member =>
        have plain := (number.isNumeric_text c member).plain
        ⟨plain.1, plain.2.1⟩
      exact free.bracesOf_eq_nil
  | string text => exact bracesOf_quoted text
  | array items ih =>
      have opening : bracesOf ['['] = [] := rfl
      have closing : bracesOf [']'] = [] := rfl
      rw [toList_text_array, braces, bracesOfItems_eq_flatMap, ← List.singleton_append,
        bracesOf_append, bracesOf_append, opening, closing, List.nil_append, List.append_nil,
        bracesOf_intercalate (by decide), List.flatMap_map]
      exact List.flatMap_congr ih
  | object members ih =>
      have opening : bracesOf ['{'] = ['{'] := rfl
      have closing : bracesOf ['}'] = ['}'] := rfl
      have colon : bracesOf [':'] = [] := rfl
      rw [toList_text_object, braces, bracesOfMembers_eq_flatMap, ← List.singleton_append,
        bracesOf_append, bracesOf_append, opening, closing, bracesOf_intercalate (by decide),
        List.flatMap_map, List.singleton_append]
      refine congrArg ('{' :: · ++ ['}']) (List.flatMap_congr fun member listed => ?_)
      rw [← List.singleton_append, bracesOf_append, bracesOf_append, bracesOf_quoted, colon,
        List.nil_append, ih member listed]

/-- **When every string of a value is balanced, so are its braces.** -/
theorem balanced_braces (json : Json) :
    (∀ text ∈ json.strings, Text.Balanced text.toList) → Text.Balanced json.braces := by
  induction json using Json.induction with
  | null => exact fun _ => .nil 0
  | bool value => exact fun _ => .nil 0
  | number number => exact fun _ => .nil 0
  | string text =>
      intro each
      exact balancedWithin_bracesOf_iff.mpr (each text List.mem_cons_self)
  | array items ih =>
      intro each
      rw [braces, bracesOfItems_eq_flatMap]
      rw [strings, stringsOfItems_eq_flatMap] at each
      refine BalancedWithin.flatMap fun item listed => ih item listed fun text inside => ?_
      exact each text (List.mem_flatMap.mpr ⟨item, listed, inside⟩)
  | object members ih =>
      intro each
      rw [braces, bracesOfMembers_eq_flatMap]
      rw [strings, stringsOfMembers_eq_flatMap] at each
      have inside : Text.Balanced (members.flatMap fun member =>
          bracesOf member.1.toList ++ braces member.2) := by
        refine BalancedWithin.flatMap fun member listed => ?_
        have own : ∀ text ∈ member.1 :: strings member.2, Text.Balanced text.toList :=
          fun text inside => each text (List.mem_flatMap.mpr ⟨member, listed, inside⟩)
        exact (balancedWithin_bracesOf_iff.mpr (own _ List.mem_cons_self)).append
          (ih member listed fun text inside => own text (List.mem_cons_of_mem _ inside))
      exact (inside.within 1).braces

end Json

end GraphSelect
