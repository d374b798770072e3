import GraphSelect.Proofs.Selection.Reach
import GraphSelect.Proofs.Selector.Tree
import GraphSelect.Selection.Layout
import Mathlib.Data.List.Nodup

/-!
# Names of a level

The entries of a level have different names, with one exception. An associative
relationship whose identifier is also its field adds a line and then a block of the
same name, for the line does not count when its own block is added. Every other
coincidence is caught: between siblings, and with the included names and the fields
(`Selector.nodup_levels_iff`).
-/

set_option autoImplicit false

namespace GraphSelect

open Selection

/-- The names that the entries put on their level, in order. -/
abbrev Selection.levelNames (level : List Selection) : List String := level.map name

/-! ## Requested names -/

theorem Selection.not_mem_used_of_leaves {used requested : List String} {name : String}
    (member : name ∈ levelNames (leaves used requested)) : name ∉ used := by
  induction requested generalizing used with
  | nil => cases member
  | cons first rest ih =>
      rw [leaves] at member
      split at member
      · exact ih member
      · next free =>
        rcases List.mem_cons.mp member with rfl | other
        · exact free
        · exact fun inUsed => ih other (List.mem_cons_of_mem _ inUsed)

theorem Selection.nodup_leaves (used requested : List String) :
    (levelNames (leaves used requested)).Nodup := by
  induction requested generalizing used with
  | nil => exact .nil
  | cons first rest ih =>
      rw [leaves]
      split
      · exact ih used
      · refine List.nodup_cons.mpr ⟨fun member => ?_, ih _⟩
        exact not_mem_used_of_leaves member List.mem_cons_self

namespace Relationship

/-! ## What one relationship adds -/

/-- The relationship names its field like its identifier, and both go on its level. -/
def NamesItself (relationship : Relationship) : Prop :=
  relationship.kind = .associative ∧ relationship.keyId = relationship.keyValue

theorem levelNames_entries_of_ok {used : List String} {relationship : Relationship} {keys : Keys}
    (resolved : relationship.resolve used = .ok keys) :
    levelNames (relationship.entries used) =
      (relationship.kind.keyLine? keys used).toList ++ [keys.value] := by
  rw [entries_of_ok resolved]
  cases relationship.kind.keyLine? keys used <;> rfl

/-- The names that a relationship adds were free before and are used after it. -/
theorem of_mem_levelNames_entries {used : List String} {relationship : Relationship}
    {name : String} (member : name ∈ levelNames (relationship.entries used)) :
    name ∉ used ∧ name ∈ relationship.usedAfter used := by
  cases result : relationship.resolve used with
  | error cause =>
      rw [entries_of_error result] at member
      cases member
  | ok keys =>
      obtain ⟨-, -, free⟩ := resolve_eq_ok_iff.mp result
      rw [levelNames_entries_of_ok result, List.mem_append, Option.mem_toList,
        List.mem_singleton] at member
      rw [usedAfter_of_ok result, List.mem_append, RelationshipKind.mem_ownNames_iff]
      rcases member with line | rfl
      · obtain ⟨kind, rfl, unused⟩ := RelationshipKind.keyLine?_eq_some_iff.mp line
        exact ⟨unused, .inl (.inr ⟨kind, rfl⟩)⟩
      · exact ⟨free, .inl (.inl rfl)⟩

/-- One relationship adds a name twice exactly when it adds a block and names itself. -/
theorem nodup_entries_iff {used : List String} {relationship : Relationship} :
    (levelNames (relationship.entries used)).Nodup ↔
      ((∃ keys, relationship.resolve used = .ok keys) → ¬relationship.NamesItself) := by
  cases result : relationship.resolve used with
  | error cause => simp [entries_of_error result]
  | ok keys =>
      obtain ⟨keyId, keyValue, free⟩ := resolve_eq_ok_iff.mp result
      have namesItself : relationship.NamesItself ↔
          relationship.kind.keyLine? keys used = some keys.value := by
        rw [NamesItself, keyId, keyValue, RelationshipKind.keyLine?_eq_some_iff, Option.some.injEq]
        constructor
        · rintro ⟨kind, same⟩
          exact ⟨kind, same, same ▸ free⟩
        · rintro ⟨kind, same, -⟩
          exact ⟨kind, same⟩
      rw [levelNames_entries_of_ok result, namesItself]
      cases relationship.kind.keyLine? keys used <;> simp

/-! ## What the relationships of a level add -/

theorem of_mem_levelNames_selections {used : List String} {relationships : List Relationship}
    {name : String} (member : name ∈ levelNames (Relationship.selections used relationships)) :
    name ∉ used ∧ name ∈ usedAfterAll used relationships := by
  induction relationships generalizing used with
  | nil =>
      rw [selections_nil] at member
      cases member
  | cons first rest ih =>
      rw [selections_cons, levelNames, List.map_append, List.mem_append] at member
      rw [usedAfterAll_cons]
      rcases member with own | other
      · obtain ⟨free, taken⟩ := of_mem_levelNames_entries own
        exact ⟨free, mem_usedAfterAll_of_mem rest taken⟩
      · obtain ⟨free, taken⟩ := ih other
        exact ⟨fun inUsed => free (mem_usedAfter_of_mem first inUsed), taken⟩

theorem nodup_selections_iff {used : List String} {relationships : List Relationship} :
    (levelNames (Relationship.selections used relationships)).Nodup ↔
      ∀ earlier relationship later, relationships = earlier ++ relationship :: later →
        (∃ keys, relationship.resolve (usedAfterAll used earlier) = .ok keys) →
          ¬relationship.NamesItself := by
  induction relationships generalizing used with
  | nil => simp
  | cons first rest ih =>
      have disjoint : (levelNames (first.entries used)).Disjoint
          (levelNames (Relationship.selections (first.usedAfter used) rest)) := by
        intro name own other
        exact (of_mem_levelNames_selections other).1 (of_mem_levelNames_entries own).2
      rw [selections_cons, levelNames, List.map_append, List.nodup_append', nodup_entries_iff, ih,
        forall_split_cons_iff, and_iff_left disjoint]
      rfl

end Relationship

/-! ## Levels -/

/-- One level has every name once exactly when no relationship with a block on it names
itself. -/
theorem Selector.nodup_selections_iff {relationships : List Relationship} {fields : List String}
    {included : List String} :
    (levelNames (Selector.selections included ⟨relationships, fields⟩)).Nodup ↔
      ∀ earlier relationship later, relationships = earlier ++ relationship :: later →
        relationship.AddsBlock earlier → ¬relationship.NamesItself := by
  have disjoint : (levelNames (Relationship.selections [] relationships)).Disjoint
      (levelNames (leaves (Relationship.usedAfterAll [] relationships) (included ++ fields))) := by
    intro name own requested
    exact not_mem_used_of_leaves requested (Relationship.of_mem_levelNames_selections own).2
  rw [Selector.selections, levelNames, List.map_append, List.nodup_append',
    and_iff_left ⟨nodup_leaves _ _, disjoint⟩, Relationship.nodup_selections_iff]
  simp only [Relationship.addsBlock_iff]

theorem Selection.isLevel_iff {tree level : List Selection} :
    IsLevel tree level ↔
      level = tree ∨ ∃ name body, block name body ∈ tree ∧ IsLevel body level := by
  constructor
  · intro isLevel
    cases isLevel with
    | root => exact .inl rfl
    | inside member isLevel => exact .inr ⟨_, _, member, isLevel⟩
  · rintro (rfl | ⟨name, body, member, isLevel⟩)
    · exact .root _
    · exact .inside member isLevel

/-- **Every level has every name once exactly when no reached relationship with a block
names itself.** -/
theorem Selector.nodup_levels_iff (selector : Selector) : ∀ included,
    (∀ level, IsLevel (selector.selections included) level → (levelNames level).Nodup) ↔
      ∀ visit, selector.Reaches visit → visit.relationship.AddsBlock visit.earlier →
        ¬visit.relationship.NamesItself := by
  induction selector using Selector.induction with
  | node relationships fields targets =>
      intro included
      constructor
      · intro unique visit reached
        obtain ⟨earlier, relationship, later, split, rfl | ⟨adds, inner, below, rfl⟩⟩ :=
          reaches_iff.mp reached
        · exact nodup_selections_iff.mp (unique _ (.root _)) earlier relationship later split
        · obtain ⟨keys, resolved⟩ := Relationship.addsBlock_iff.mp adds
          have member : relationship ∈ relationships := by simp [split]
          refine (targets relationship member (relationship.kind.passedDown keys)).mp ?_ inner below
          intro level isLevel
          exact unique level (.inside (block_mem_selections_iff.mpr
            ⟨earlier, relationship, later, split, keys, resolved, rfl, rfl⟩) isLevel)
      · intro none level isLevel
        rcases isLevel_iff.mp isLevel with rfl | ⟨name, body, inTree, isLevel⟩
        · refine nodup_selections_iff.mpr fun earlier relationship later split adds => ?_
          exact none _ (reaches_iff.mpr ⟨earlier, relationship, later, split, .inl rfl⟩) adds
        · obtain ⟨earlier, relationship, later, split, keys, resolved, -, rfl⟩ :=
            block_mem_selections_iff.mp inTree
          have split : relationships = earlier ++ relationship :: later := split
          have member : relationship ∈ relationships := by simp [split]
          refine (targets relationship member (relationship.kind.passedDown keys)).mpr ?_
            level isLevel
          intro inner below
          have adds : relationship.AddsBlock earlier :=
            Relationship.addsBlock_iff.mpr ⟨keys, resolved⟩
          exact none (inner.below earlier.length)
            (reaches_iff.mpr ⟨earlier, relationship, later, split, .inr ⟨adds, inner, below, rfl⟩⟩)

/-- One associative relationship whose identifier is its field. -/
def selfNamedSelector : Selector := ⟨[.between .associative "id" "id" .empty], []⟩

theorem selfNamedSelector_repeats :
    selfNamedSelector.compile {} = "id\nid \x7b\n\x7d" ∧
      ¬∀ level, IsLevel (selfNamedSelector.selections []) level → (levelNames level).Nodup := by
  refine ⟨by decide, fun unique => ?_⟩
  exact absurd (unique _ (.root _)) (by decide)

end GraphSelect
