import GraphSelect.Selection.Basic
import GraphSelect.Proofs.Selector.Tree

/-!
# Walking a level

The selection set of a level is what its relationships add, one after the other,
and then the requested names. What a relationship adds depends on the names that
its earlier siblings use, and on nothing else (`Relationship.selections_append`).

A relationship adds a block, or it adds nothing (`Relationship.addsBlock_iff`). The
names in use after some siblings are those of the ones that added a block
(`Relationship.mem_usedAfterAll_iff`): the field of each, and the identifier of each
associative one.
-/

set_option autoImplicit false

namespace GraphSelect

open Selection

theorem RelationshipKind.mem_ownNames_iff {kind : RelationshipKind} {keys : Keys}
    {name : String} :
    name ∈ kind.ownNames keys ↔ keys.value = name ∨ kind = .associative ∧ keys.id = name := by
  cases kind <;> simp [ownNames, isContainment, eq_comm, or_comm]

theorem RelationshipKind.mem_passedDown_iff {kind : RelationshipKind} {keys : Keys}
    {name : String} :
    name ∈ kind.passedDown keys ↔ kind ≠ .associative ∧ keys.id = name := by
  cases kind <;> simp [passedDown, isContainment, eq_comm]

theorem RelationshipKind.keyLine?_eq_some_iff {kind : RelationshipKind} {keys : Keys}
    {used : List String} {name : String} :
    kind.keyLine? keys used = some name ↔
      kind = .associative ∧ keys.id = name ∧ keys.id ∉ used := by
  cases kind <;> simp [keyLine?, isContainment, and_comm]

/-- A place in a list with a further element in front is the front or a place in the
rest. -/
theorem exists_split_cons_iff {α : Type} {first : α} {rest : List α}
    {place : List α → α → Prop} :
    (∃ before element after, first :: rest = before ++ element :: after ∧ place before element) ↔
      place [] first ∨
        ∃ before element after, rest = before ++ element :: after ∧
          place (first :: before) element := by
  constructor
  · rintro ⟨before, element, after, split, holds⟩
    cases before with
    | nil =>
        obtain ⟨rfl, rfl⟩ := List.cons.inj split
        exact .inl holds
    | cons head before =>
        obtain ⟨rfl, rfl⟩ := List.cons.inj split
        exact .inr ⟨before, element, after, rfl, holds⟩
  · rintro (holds | ⟨before, element, after, rfl, holds⟩)
    · exact ⟨[], first, rest, rfl, holds⟩
    · exact ⟨first :: before, element, after, rfl, holds⟩

theorem forall_split_cons_iff {α : Type} {first : α} {rest : List α}
    {place : List α → α → Prop} :
    (∀ before element after, first :: rest = before ++ element :: after → place before element) ↔
      place [] first ∧
        ∀ before element after, rest = before ++ element :: after →
          place (first :: before) element := by
  have split := @exists_split_cons_iff α first rest fun before element => ¬place before element
  simpa only [not_exists, not_and, Classical.not_not, not_or] using not_congr split

namespace Relationship

/-! ## What one relationship adds -/

/-- The entries that a relationship adds to a level where the names `used` are taken. -/
def entries (used : List String) (relationship : Relationship) : List Selection :=
  match relationship.resolve used with
  | .error _ => []
  | .ok keys =>
    ((relationship.kind.keyLine? keys used).map leaf).toList ++
      [block keys.value (relationship.selector.selections (relationship.kind.passedDown keys))]

theorem entries_of_error {used : List String} {relationship : Relationship}
    {cause : OmissionCause} (omitted : relationship.resolve used = .error cause) :
    relationship.entries used = [] := by
  simp only [entries, omitted]

theorem entries_of_ok {used : List String} {relationship : Relationship} {keys : Keys}
    (resolved : relationship.resolve used = .ok keys) :
    relationship.entries used =
      ((relationship.kind.keyLine? keys used).map leaf).toList ++
        [block keys.value
          (relationship.selector.selections (relationship.kind.passedDown keys))] := by
  simp only [entries, resolved]

theorem block_mem_entries_iff {used : List String} {relationship : Relationship} {name : String}
    {body : List Selection} :
    block name body ∈ relationship.entries used ↔
      ∃ keys, relationship.resolve used = .ok keys ∧ keys.value = name ∧
        relationship.selector.selections (relationship.kind.passedDown keys) = body := by
  cases result : relationship.resolve used with
  | error cause => simp [entries_of_error result]
  | ok keys => simp [entries_of_ok result, eq_comm]

theorem usedAfter_of_error {used : List String} {relationship : Relationship}
    {cause : OmissionCause} (omitted : relationship.resolve used = .error cause) :
    relationship.usedAfter used = used := by
  simp only [usedAfter, omitted]

theorem usedAfter_of_ok {used : List String} {relationship : Relationship} {keys : Keys}
    (resolved : relationship.resolve used = .ok keys) :
    relationship.usedAfter used = relationship.kind.ownNames keys ++ used := by
  simp only [usedAfter, resolved]

theorem mem_usedAfter_iff {used : List String} {relationship : Relationship} {name : String} :
    name ∈ relationship.usedAfter used ↔
      name ∈ used ∨ ∃ keys, relationship.resolve used = .ok keys ∧
        name ∈ relationship.kind.ownNames keys := by
  cases result : relationship.resolve used with
  | error cause => simp [usedAfter_of_error result]
  | ok keys => simp [usedAfter_of_ok result, or_comm]

/-! ## What a list of relationships adds -/

@[simp] theorem selections_nil (used : List String) : Relationship.selections used [] = [] := by
  simp only [Relationship.selections]

theorem selections_cons (used : List String) (relationship : Relationship)
    (rest : List Relationship) :
    Relationship.selections used (relationship :: rest) =
      relationship.entries used ++
        Relationship.selections (relationship.usedAfter used) rest := by
  obtain ⟨kind, keyId, keyValue, target⟩ := relationship
  cases result : resolve used ⟨kind, keyId, keyValue, target⟩ with
  | error cause =>
      simp only [Relationship.selections, result, entries_of_error result,
        usedAfter_of_error result, List.nil_append]
  | ok keys =>
      simp only [Relationship.selections, result, entries_of_ok result, usedAfter_of_ok result,
        List.append_assoc, List.singleton_append]

theorem usedAfterAll_append (used : List String) (earlier later : List Relationship) :
    usedAfterAll used (earlier ++ later) = usedAfterAll (usedAfterAll used earlier) later :=
  List.foldl_append

theorem mem_usedAfterAll_of_mem {used : List String} {name : String}
    (relationships : List Relationship) (member : name ∈ used) :
    name ∈ usedAfterAll used relationships := by
  induction relationships generalizing used with
  | nil => exact member
  | cons first rest ih => exact ih (mem_usedAfter_of_mem first member)

/-- Later relationships see of the earlier ones only the names that they use. -/
theorem selections_append (used : List String) (earlier later : List Relationship) :
    Relationship.selections used (earlier ++ later) =
      Relationship.selections used earlier ++
        Relationship.selections (usedAfterAll used earlier) later := by
  induction earlier generalizing used with
  | nil => simp
  | cons first rest ih =>
      rw [List.cons_append, selections_cons, ih, selections_cons, usedAfterAll_cons,
        List.append_assoc]

theorem mem_selections_iff {used : List String} {relationships : List Relationship}
    {entry : Selection} :
    entry ∈ Relationship.selections used relationships ↔
      ∃ before relationship after, relationships = before ++ relationship :: after ∧
        entry ∈ relationship.entries (usedAfterAll used before) := by
  induction relationships generalizing used with
  | nil => simp
  | cons first rest ih =>
      rw [selections_cons, List.mem_append, ih, exists_split_cons_iff]
      rfl

/-! ## The relationships that add a block -/

/-- Taking the relationship in, after its earlier siblings, puts a block at the end of
what the siblings give. -/
def AddsBlock (earlier : List Relationship) (relationship : Relationship) : Prop :=
  ∃ lines name body, Relationship.selections [] (earlier ++ [relationship]) =
    Relationship.selections [] earlier ++ lines ++ [block name body]

/-- **A relationship adds a block exactly when it resolves among the names that its
earlier siblings use.** -/
theorem addsBlock_iff {earlier : List Relationship} {relationship : Relationship} :
    AddsBlock earlier relationship ↔
      ∃ keys, relationship.resolve (usedAfterAll [] earlier) = .ok keys := by
  have grown : Relationship.selections [] (earlier ++ [relationship]) =
      Relationship.selections [] earlier ++ relationship.entries (usedAfterAll [] earlier) := by
    rw [selections_append, selections_cons, selections_nil, List.append_nil]
  constructor
  · rintro ⟨lines, name, body, added⟩
    cases result : relationship.resolve (usedAfterAll [] earlier) with
    | error cause =>
        rw [grown, entries_of_error result, List.append_assoc] at added
        exact absurd (List.append_cancel_left added) (by simp)
    | ok keys => exact ⟨keys, rfl⟩
  · rintro ⟨keys, resolved⟩
    refine ⟨((relationship.kind.keyLine? keys (usedAfterAll [] earlier)).map leaf).toList,
      keys.value, relationship.selector.selections (relationship.kind.passedDown keys), ?_⟩
    rw [grown, entries_of_ok resolved, List.append_assoc]

instance (earlier : List Relationship) (relationship : Relationship) :
    Decidable (AddsBlock earlier relationship) :=
  match result : relationship.resolve (usedAfterAll [] earlier) with
  | .ok keys => isTrue (addsBlock_iff.mpr ⟨keys, result⟩)
  | .error _ => isFalse fun adds => by
      obtain ⟨keys, resolved⟩ := addsBlock_iff.mp adds
      cases result.symm.trans resolved

/-! ## The names in use -/

theorem mem_usedAfterAll_iff_split {used : List String} {relationships : List Relationship}
    {name : String} :
    name ∈ usedAfterAll used relationships ↔
      name ∈ used ∨ ∃ before relationship after,
        relationships = before ++ relationship :: after ∧
          ∃ keys, relationship.resolve (usedAfterAll used before) = .ok keys ∧
            name ∈ relationship.kind.ownNames keys := by
  induction relationships generalizing used with
  | nil => simp
  | cons first rest ih =>
      rw [usedAfterAll_cons, ih, mem_usedAfter_iff, exists_split_cons_iff, or_assoc]
      rfl

/-- An earlier sibling with a block has the name as its field, or, when it is
associative, as its identifier. -/
def Takes (earlier : List Relationship) (name : String) : Prop :=
  ∃ before sibling after, earlier = before ++ sibling :: after ∧ AddsBlock before sibling ∧
    (sibling.keyValue = some name ∨ sibling.kind = .associative ∧ sibling.keyId = some name)

/-- **The names in use are those of the siblings that added a block.** -/
theorem mem_usedAfterAll_iff {earlier : List Relationship} {name : String} :
    name ∈ usedAfterAll [] earlier ↔ Takes earlier name := by
  rw [mem_usedAfterAll_iff_split]
  simp only [List.not_mem_nil, false_or]
  constructor
  · rintro ⟨before, sibling, after, rfl, keys, resolved, own⟩
    obtain ⟨keyId, keyValue, -⟩ := resolve_eq_ok_iff.mp resolved
    refine ⟨before, sibling, after, rfl, addsBlock_iff.mpr ⟨keys, resolved⟩, ?_⟩
    rcases RelationshipKind.mem_ownNames_iff.mp own with rfl | ⟨kind, rfl⟩
    · exact .inl keyValue
    · exact .inr ⟨kind, keyId⟩
  · rintro ⟨before, sibling, after, rfl, adds, named⟩
    obtain ⟨keys, resolved⟩ := addsBlock_iff.mp adds
    obtain ⟨keyId, keyValue, -⟩ := resolve_eq_ok_iff.mp resolved
    refine ⟨before, sibling, after, rfl, keys, resolved, RelationshipKind.mem_ownNames_iff.mpr ?_⟩
    rcases named with value | ⟨kind, id⟩
    · exact .inl (Option.some.inj (keyValue.symm.trans value))
    · exact .inr ⟨kind, Option.some.inj (keyId.symm.trans id)⟩

instance (earlier : List Relationship) (name : String) : Decidable (Takes earlier name) :=
  decidable_of_iff _ mem_usedAfterAll_iff

end Relationship

/-! ## Levels -/

theorem Selection.exists_leaf_of_mem_leaves {used requested : List String} {entry : Selection}
    (member : entry ∈ leaves used requested) : ∃ name, entry = leaf name := by
  induction requested generalizing used with
  | nil => cases member
  | cons first rest ih =>
      rw [leaves] at member
      split at member
      · exact ih member
      · rcases List.mem_cons.mp member with rfl | member
        · exact ⟨first, rfl⟩
        · exact ih member

/-- **The blocks of a level are those of its relationships that resolve**, and the body of
each is the selection set of the target with the names that the kind passes down. -/
theorem Selector.block_mem_selections_iff {selector : Selector} {included : List String}
    {name : String} {body : List Selection} :
    block name body ∈ selector.selections included ↔
      ∃ earlier relationship later, selector.relationships = earlier ++ relationship :: later ∧
        ∃ keys, relationship.resolve (Relationship.usedAfterAll [] earlier) = .ok keys ∧
          keys.value = name ∧
            relationship.selector.selections (relationship.kind.passedDown keys) = body := by
  obtain ⟨relationships, fields⟩ := selector
  rw [Selector.selections, List.mem_append, Relationship.mem_selections_iff]
  constructor
  · rintro (⟨earlier, relationship, later, split, member⟩ | member)
    · exact ⟨earlier, relationship, later, split,
        Relationship.block_mem_entries_iff.mp member⟩
    · obtain ⟨other, same⟩ := exists_leaf_of_mem_leaves member
      cases same
  · rintro ⟨earlier, relationship, later, split, resolved⟩
    exact .inl ⟨earlier, relationship, later, split,
      Relationship.block_mem_entries_iff.mpr resolved⟩

/-- A level of a tree: the tree itself, or a level inside one of its blocks. -/
inductive Selection.IsLevel : List Selection → List Selection → Prop
  | root (tree : List Selection) : IsLevel tree tree
  | inside {tree : List Selection} {name : String} {body level : List Selection}
      (member : block name body ∈ tree) (isLevel : IsLevel body level) : IsLevel tree level

end GraphSelect
