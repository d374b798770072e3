import GraphSelect.Selector.Basic

/-!
# Selectors as trees

A property holds of every selector when it holds of a node whose relationships
lead to selectors that have it (`Selector.induction`). The names of a selector are
all texts that it can put into a selection set: the keys of its relationships and
its fields, at every depth.
-/

set_option autoImplicit false

namespace GraphSelect

/-! ## Induction on the targets of relationships -/

mutual

/-- A property that passes from the targets of the relationships to the node holds
of every selector. -/
theorem Selector.induction {motive : Selector → Prop}
    (node : ∀ (relationships : List Relationship) (fields : List String),
      (∀ relationship ∈ relationships, motive relationship.selector) →
        motive ⟨relationships, fields⟩) : ∀ selector : Selector, motive selector
  | ⟨relationships, fields⟩ =>
      node relationships fields (Relationship.induction_targets node relationships)

theorem Relationship.induction_targets {motive : Selector → Prop}
    (node : ∀ (relationships : List Relationship) (fields : List String),
      (∀ relationship ∈ relationships, motive relationship.selector) →
        motive ⟨relationships, fields⟩) : ∀ relationships : List Relationship,
    ∀ relationship ∈ relationships, motive relationship.selector
  | [], _, member => nomatch member
  | ⟨_, _, _, target⟩ :: rest, relationship, member => by
      rcases List.mem_cons.mp member with rfl | member
      · exact Selector.induction node target
      · exact Relationship.induction_targets node rest relationship member

end

/-! ## Names -/

mutual

/-- Every key and every field of a selector, at every depth. -/
def Selector.names : Selector → List String
  | ⟨relationships, fields⟩ => Relationship.names relationships ++ fields

/-- The keys of the relationships of a level, with the names of their targets. -/
def Relationship.names : List Relationship → List String
  | [] => []
  | ⟨_, keyId, keyValue, target⟩ :: rest =>
    keyId.toList ++ keyValue.toList ++ target.names ++ Relationship.names rest

end

/-- A name of a level is a key of one of its relationships or a name of a target. -/
theorem Relationship.mem_names_iff {relationships : List Relationship} {name : String} :
    name ∈ Relationship.names relationships ↔
      ∃ relationship ∈ relationships, relationship.keyId = some name ∨
        relationship.keyValue = some name ∨ name ∈ relationship.selector.names := by
  induction relationships with
  | nil => simp [Relationship.names]
  | cons first rest ih =>
      obtain ⟨kind, keyId, keyValue, target⟩ := first
      simp only [Relationship.names, List.mem_append, Option.mem_toList, ih, List.mem_cons,
        exists_eq_or_imp, or_assoc]

end GraphSelect
