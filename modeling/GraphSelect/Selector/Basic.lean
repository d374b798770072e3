/-!
# Selectors

A selector is a node of an entity-relationship tree. It requests field names at
its own level and has relationships to related entities, each of which carries
the selector of its target. The order of both lists is the order in which names
appear in the selection set that is made from them.

The module holds the types, the builders, equality and the depth of a selector.
-/

set_option autoImplicit false

namespace GraphSelect

/-- How a relationship relates an entity to its target. -/
inductive RelationshipKind where
  /-- One-to-many containment. -/
  | childrenEntities
  /-- One-to-one containment. -/
  | childEntity
  /-- A keyed reference or a join. -/
  | associative
deriving DecidableEq, Repr, Inhabited

namespace RelationshipKind

/-- The kind that a tag names. An unknown tag and a missing one are associative. -/
def ofTag : Option String → RelationshipKind
  | some "childrenEntities" => .childrenEntities
  | some "childEntity" => .childEntity
  | _ => .associative

/-- Whether the target is contained in the entity that has the relationship. -/
def isContainment : RelationshipKind → Bool
  | .childrenEntities => true
  | .childEntity => true
  | .associative => false

end RelationshipKind

/-- The two names of a relationship that can be selected: the field that
identifies the related entity and the field under which it is exposed. -/
structure Keys where
  id : String
  value : String
deriving DecidableEq, Repr

mutual

/-- A node of the tree: its relationships and the names requested at its level. -/
structure Selector where
  relationships : List Relationship := []
  fields : List String := []

/-- An edge of the tree. Either key may be missing; the relationship then cannot
be selected. -/
structure Relationship where
  kind : RelationshipKind
  keyId : Option String := none
  keyValue : Option String := none
  /-- What is requested of the related entity. -/
  selector : Selector

end

/-! ## Builders -/

namespace Relationship

/-- The relationship with both keys set. -/
def keyed (relationship : Relationship) (keyId keyValue : String) : Relationship :=
  { relationship with keyId := some keyId, keyValue := some keyValue }

/-- A relationship of the given kind with both keys. -/
def between (kind : RelationshipKind) (keyId keyValue : String) (selector : Selector) :
    Relationship :=
  ⟨kind, some keyId, some keyValue, selector⟩

/-- Both keys, when neither is missing. -/
def keys? (relationship : Relationship) : Option Keys :=
  match relationship.keyId, relationship.keyValue with
  | some id, some value => some ⟨id, value⟩
  | _, _ => none

@[simp] theorem keys?_keyed (relationship : Relationship) (keyId keyValue : String) :
    (relationship.keyed keyId keyValue).keys? = some ⟨keyId, keyValue⟩ := rfl

@[simp] theorem keys?_between (kind : RelationshipKind) (keyId keyValue : String)
    (selector : Selector) :
    (between kind keyId keyValue selector).keys? = some ⟨keyId, keyValue⟩ := rfl

end Relationship

namespace Selector

/-- The selector that requests nothing. -/
def empty : Selector := ⟨[], []⟩

instance : Inhabited Selector := ⟨empty⟩

/-- The selector with one more requested name, after the others. -/
def field (selector : Selector) (name : String) : Selector :=
  { selector with fields := selector.fields ++ [name] }

/-- The selector with more requested names, after the others. -/
def withFields (selector : Selector) (names : List String) : Selector :=
  { selector with fields := selector.fields ++ names }

/-- The selector with one more relationship, after the others. -/
def relationship (selector : Selector) (relationship : Relationship) : Selector :=
  { selector with relationships := selector.relationships ++ [relationship] }

end Selector

/-! ## Depth -/

mutual

/-- The number of relationships on the longest way down from a selector. -/
def Selector.depth : Selector → Nat
  | ⟨relationships, _⟩ => Relationship.greatestDepth relationships

/-- The length of the longest way down that starts with one of the relationships. -/
def Relationship.greatestDepth : List Relationship → Nat
  | [] => 0
  | ⟨_, _, _, selector⟩ :: rest => max (1 + selector.depth) (Relationship.greatestDepth rest)

end

/-! ## Equality -/

mutual

/-- Two selectors are equal when their relationships and their fields agree in order. -/
def Selector.decEq : (left right : Selector) → Decidable (left = right)
  | ⟨relationships, fields⟩, ⟨relationships', fields'⟩ =>
    match Relationship.decEqList relationships relationships', decEq fields fields' with
    | isTrue same, isTrue sameFields => isTrue (by rw [same, sameFields])
    | isFalse differ, _ => isFalse (fun equal => differ (Selector.mk.inj equal).1)
    | _, isFalse differ => isFalse (fun equal => differ (Selector.mk.inj equal).2)

/-- Two relationships are equal when kind, keys and target agree. -/
def Relationship.decEq : (left right : Relationship) → Decidable (left = right)
  | ⟨kind, keyId, keyValue, selector⟩, ⟨kind', keyId', keyValue', selector'⟩ =>
    match selector.decEq selector' with
    | isFalse differ => isFalse (fun equal => differ (Relationship.mk.inj equal).2.2.2)
    | isTrue sameTarget =>
      if same : kind = kind' ∧ keyId = keyId' ∧ keyValue = keyValue' then
        isTrue (by rw [same.1, same.2.1, same.2.2, sameTarget])
      else
        isFalse (fun equal =>
          have parts := Relationship.mk.inj equal
          same ⟨parts.1, parts.2.1, parts.2.2.1⟩)

/-- Two lists of relationships are equal when their elements are. -/
def Relationship.decEqList : (left right : List Relationship) → Decidable (left = right)
  | [], [] => isTrue rfl
  | [], _ :: _ => isFalse (fun equal => nomatch equal)
  | _ :: _, [] => isFalse (fun equal => nomatch equal)
  | first :: rest, first' :: rest' =>
    match first.decEq first', Relationship.decEqList rest rest' with
    | isTrue same, isTrue sameRest => isTrue (by rw [same, sameRest])
    | isFalse differ, _ => isFalse (fun equal => differ (List.cons.inj equal).1)
    | _, isFalse differ => isFalse (fun equal => differ (List.cons.inj equal).2)

end

instance : DecidableEq Selector := Selector.decEq

instance : DecidableEq Relationship := Relationship.decEq

end GraphSelect
