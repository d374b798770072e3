import GraphSelect.Json.Writer

/-!
# JSON values as trees

A property holds of every value when it holds of the scalars, of a list whose items have
it, and of an object whose members have values with it (`Json.induction`). The texts of
lists and objects are given as characters (`Json.toList_text_array`,
`Json.toList_text_object`).
-/

set_option autoImplicit false

namespace GraphSelect

/-! ## Induction on items and members -/

/-- The value of a member is smaller than the members. -/
theorem Json.sizeOf_value_lt {members : List (String × Json)} {member : String × Json}
    (inside : member ∈ members) : sizeOf member.2 < sizeOf members := by
  have smaller := List.sizeOf_lt_of_mem inside
  obtain ⟨name, value⟩ := member
  simp only [Prod.mk.sizeOf_spec] at smaller ⊢
  omega

/-- A property that passes from the items of a list and from the values of an object to
the whole holds of every value. -/
theorem Json.induction {motive : Json → Prop} (null : motive .null)
    (bool : ∀ value, motive (.bool value)) (number : ∀ value, motive (.number value))
    (string : ∀ text, motive (.string text))
    (array : ∀ items : List Json, (∀ item ∈ items, motive item) → motive (.array items))
    (object : ∀ members : List (String × Json), (∀ member ∈ members, motive member.2) →
      motive (.object members)) : ∀ json : Json, motive json
  | .null => null
  | .bool value => bool value
  | .number value => number value
  | .string text => string text
  | .array items => array items fun item _ =>
      Json.induction null bool number string array object item
  | .object members => object members fun member _ =>
      Json.induction null bool number string array object member.2
termination_by json => sizeOf json
decreasing_by
  · have smaller := List.sizeOf_lt_of_mem ‹item ∈ items›
    simp only [Json.array.sizeOf_spec]
    omega
  · have smaller := Json.sizeOf_value_lt ‹member ∈ members›
    simp only [Json.object.sizeOf_spec]
    omega

namespace Json

/-! ## Equality -/

mutual

/-- Two values are spelled alike, with their members in the same order. -/
def beq : Json → Json → Bool
  | null, null => true
  | bool left, bool right => left == right
  | number left, number right => left = right
  | string left, string right => left == right
  | array left, array right => beqItems left right
  | object left, object right => beqMembers left right
  | _, _ => false

/-- Two lists of values are spelled alike. -/
def beqItems : List Json → List Json → Bool
  | [], [] => true
  | left :: lefts, right :: rights => beq left right && beqItems lefts rights
  | _, _ => false

/-- Two lists of members are spelled alike. -/
def beqMembers : List (String × Json) → List (String × Json) → Bool
  | [], [] => true
  | (name, left) :: lefts, (name', right) :: rights =>
    name == name' && beq left right && beqMembers lefts rights
  | _, _ => false

end

mutual

theorem beq_iff : ∀ left right : Json, left.beq right = true ↔ left = right
  | null, right => by cases right <;> simp [beq]
  | bool left, right => by cases right <;> simp [beq]
  | number left, right => by cases right <;> simp [beq]
  | string left, right => by cases right <;> simp [beq]
  | array left, right => by
      cases right with
      | array right => rw [beq, beqItems_iff left right, array.injEq]
      | _ => simp [beq]
  | object left, right => by
      cases right with
      | object right => rw [beq, beqMembers_iff left right, object.injEq]
      | _ => simp [beq]

theorem beqItems_iff : ∀ left right : List Json, beqItems left right = true ↔ left = right
  | [], right => by cases right <;> simp [beqItems]
  | first :: rest, [] => by simp [beqItems]
  | first :: rest, first' :: rest' => by
      rw [beqItems, Bool.and_eq_true, beq_iff first first', beqItems_iff rest rest',
        List.cons.injEq]

theorem beqMembers_iff : ∀ left right : List (String × Json),
    beqMembers left right = true ↔ left = right
  | [], right => by cases right <;> simp [beqMembers]
  | first :: rest, [] => by simp [beqMembers]
  | (name, first) :: rest, (name', first') :: rest' => by
      rw [beqMembers, Bool.and_eq_true, Bool.and_eq_true, beq_iff_eq, beq_iff first first',
        beqMembers_iff rest rest', List.cons.injEq, Prod.mk.injEq]

end

instance : DecidableEq Json := fun left right =>
  decidable_of_iff (left.beq right = true) (beq_iff left right)

/-! ## The texts of items and members -/

theorem textOfItems_eq_map (items : List Json) : textOfItems items = items.map text := by
  induction items with
  | nil => rfl
  | cons first rest ih => rw [textOfItems, ih, List.map_cons]

theorem textOfMembers_eq_map (members : List (String × Json)) :
    textOfMembers members =
      members.map fun member => Text.quoted member.1 ++ ":" ++ member.2.text := by
  induction members with
  | nil => rfl
  | cons first rest ih => rw [textOfMembers, ih, List.map_cons]

/-- The text of a list: its brackets, and the texts of its items with commas between them. -/
theorem toList_text_array (items : List Json) :
    (array items).text.toList =
      '[' :: ([','].intercalate (items.map fun item => item.text.toList) ++ [']']) := by
  have opening : "[".toList = ['['] := rfl
  have closing : "]".toList = [']'] := rfl
  have comma : ",".toList = [','] := rfl
  rw [text, textOfItems_eq_map, String.toList_append, String.toList_append,
    String.toList_intercalate, opening, closing, comma, List.map_map, List.append_assoc,
    List.singleton_append]
  rfl

/-- The text of an object: its braces, and its members with commas between them, each with a
colon between its name and its value. -/
theorem toList_text_object (members : List (String × Json)) :
    (object members).text.toList =
      '{' :: ([','].intercalate (members.map fun member =>
        (Text.quoted member.1).toList ++ ':' :: member.2.text.toList) ++ ['}']) := by
  have opening : "\x7b".toList = ['{'] := rfl
  have closing : "\x7d".toList = ['}'] := rfl
  have comma : ",".toList = [','] := rfl
  have colon : ":".toList = [':'] := rfl
  have texts : String.toList ∘ (fun member => Text.quoted member.1 ++ ":" ++ member.2.text) =
      fun member : String × Json =>
        (Text.quoted member.1).toList ++ ':' :: member.2.text.toList := by
    funext member
    rw [Function.comp_apply, String.toList_append, String.toList_append, colon,
      List.append_assoc, List.singleton_append]
  rw [text, textOfMembers_eq_map, String.toList_append, String.toList_append,
    String.toList_intercalate, opening, closing, comma, List.map_map, texts, List.append_assoc,
    List.singleton_append]

end Json

end GraphSelect
