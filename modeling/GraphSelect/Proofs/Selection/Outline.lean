import GraphSelect.Proofs.Selection.Level
import GraphSelect.Proofs.Selection.Tokens
import Mathlib.Data.Finset.Insert

/-!
# The outline of a selector

The outline is the tree that a selector asks for, said as a walk with a set of used
names. A level starts with the empty set. Its relationships are walked in order: one
that lacks a key or whose field is used adds nothing, and every other one adds a
block, after a leaf for an unused identifier when it is associative. The included
names and the fields follow, each as a leaf unless it is used.

The selection set of a selector is its outline (`Selector.selections_eq_outline`).
When all names are words and the unit is blank, the text of the selection set can be
read, and what is read is the outline (`parse_compile`).
-/

set_option autoImplicit false

namespace GraphSelect

open Selection

/-- A level during its walk: the names that it uses and its entries in order. -/
structure LevelWalk where
  used : Finset String := ∅
  entries : List Selection := []

namespace LevelWalk

/-- A leaf, unless its name is used. -/
def addLeaf (walk : LevelWalk) (name : String) : LevelWalk :=
  if name ∈ walk.used then walk else ⟨insert name walk.used, walk.entries ++ [leaf name]⟩

/-- A block with its body. -/
def addBlock (walk : LevelWalk) (name : String) (body : List Selection) : LevelWalk :=
  ⟨insert name walk.used, walk.entries ++ [block name body]⟩

end LevelWalk

mutual

/-- The tree that a selector asks for when the names `included` are requested at its
root. -/
def Selector.outline (included : List String) : Selector → List Selection
  | ⟨relationships, fields⟩ =>
    ((included ++ fields).foldl LevelWalk.addLeaf (Relationship.outline {} relationships)).entries

/-- The walk of a level after some more of its relationships. -/
def Relationship.outline (walk : LevelWalk) : List Relationship → LevelWalk
  | [] => walk
  | ⟨kind, some id, some value, target⟩ :: rest =>
    if value ∈ walk.used then Relationship.outline walk rest
    else
      match kind with
      | .associative =>
        Relationship.outline ((walk.addLeaf id).addBlock value (target.outline [])) rest
      | .childEntity | .childrenEntities =>
        Relationship.outline (walk.addBlock value (target.outline [id])) rest
  | _ :: rest => Relationship.outline walk rest

end

/-- The walk has used the names of the list and made the entries. -/
structure LevelWalk.Agrees (walk : LevelWalk) (used : List String) (entries : List Selection) :
    Prop where
  used_iff : ∀ name, name ∈ walk.used ↔ name ∈ used
  entries_eq : walk.entries = entries

namespace LevelWalk.Agrees

variable {walk : LevelWalk} {used : List String} {entries : List Selection}

theorem addLeaf (agrees : walk.Agrees used entries) (name : String) :
    (walk.addLeaf name).Agrees (if name ∈ used then used else name :: used)
      (entries ++ if name ∈ used then [] else [leaf name]) := by
  by_cases taken : name ∈ used
  · rw [if_pos taken, if_pos taken, List.append_nil, LevelWalk.addLeaf,
      if_pos ((agrees.used_iff name).mpr taken)]
    exact agrees
  · rw [if_neg taken, if_neg taken, LevelWalk.addLeaf,
      if_neg fun member => taken ((agrees.used_iff name).mp member)]
    refine ⟨fun other => ?_, by rw [agrees.entries_eq]⟩
    simp only [Finset.mem_insert, agrees.used_iff, List.mem_cons]

theorem addBlock (agrees : walk.Agrees used entries) (name : String) (body : List Selection) :
    (walk.addBlock name body).Agrees (name :: used) (entries ++ [block name body]) := by
  refine ⟨fun other => ?_, by rw [LevelWalk.addBlock, agrees.entries_eq]⟩
  simp only [LevelWalk.addBlock, Finset.mem_insert, agrees.used_iff, List.mem_cons]

/-- The walk only asks which names are used. -/
theorem congr {used' : List String} (agrees : walk.Agrees used entries)
    (same : ∀ name, name ∈ used ↔ name ∈ used') : walk.Agrees used' entries :=
  ⟨fun name => (agrees.used_iff name).trans (same name), agrees.entries_eq⟩

theorem foldl_addLeaf (agrees : walk.Agrees used entries) (names : List String) :
    (names.foldl LevelWalk.addLeaf walk).entries = entries ++ leaves used names := by
  induction names generalizing walk used entries with
  | nil => simp [agrees.entries_eq, leaves]
  | cons name rest ih =>
      rw [List.foldl_cons, ih (agrees.addLeaf name), leaves, List.append_assoc]
      split <;> rfl

end LevelWalk.Agrees

namespace Relationship

theorem outline_cons (walk : LevelWalk) (relationship : Relationship)
    (rest : List Relationship) :
    Relationship.outline walk (relationship :: rest) =
      Relationship.outline (Relationship.outline walk [relationship]) rest := by
  obtain ⟨kind, keyId, keyValue, target⟩ := relationship
  cases keyId <;> cases keyValue <;> simp only [Relationship.outline]
  split
  · rfl
  · cases kind <;> rfl

/-- Taking a relationship into the walk adds its entries and uses its names. -/
theorem agrees_outline_singleton {walk : LevelWalk} {used : List String}
    {entries : List Selection} {relationship : Relationship}
    (target : ∀ included, relationship.selector.outline included =
      relationship.selector.selections included)
    (agrees : walk.Agrees used entries) :
    (Relationship.outline walk [relationship]).Agrees (relationship.usedAfter used)
      (entries ++ relationship.entries used) := by
  obtain ⟨kind, keyId, keyValue, selector⟩ := relationship
  cases result : resolve used ⟨kind, keyId, keyValue, selector⟩ with
  | error cause =>
      have untouched : Relationship.outline walk [⟨kind, keyId, keyValue, selector⟩] = walk := by
        cases keyId <;> cases keyValue <;> simp only [Relationship.outline]
        next id value =>
          have taken : value ∈ used := by
            by_contra free
            cases result.symm.trans
              (resolve_eq_ok_iff.mpr ⟨rfl, rfl, free⟩ : resolve used _ = .ok ⟨id, value⟩)
          rw [if_pos ((agrees.used_iff value).mpr taken)]
      rw [untouched, usedAfter_of_error result, entries_of_error result, List.append_nil]
      exact agrees
  | ok keys =>
      obtain ⟨id, value⟩ := keys
      obtain ⟨rfl, rfl, free⟩ := resolve_eq_ok_iff.mp result
      have unused : value ∉ walk.used := fun member => free ((agrees.used_iff value).mp member)
      rw [usedAfter_of_ok result, entries_of_ok result]
      simp only [Relationship.outline, if_neg unused]
      cases kind with
      | associative =>
          have walked := (agrees.addLeaf id).addBlock value (selector.outline [])
          have line : ((RelationshipKind.associative.keyLine? ⟨id, value⟩ used).map leaf).toList =
              if id ∈ used then [] else [leaf id] := by
            by_cases taken : id ∈ used <;>
              simp [RelationshipKind.keyLine?, RelationshipKind.isContainment, taken]
          have body : selector.outline [] =
              selector.selections (RelationshipKind.associative.passedDown ⟨id, value⟩) := target []
          rw [List.append_assoc] at walked
          rw [line, ← body]
          refine walked.congr fun name => ?_
          simp only [RelationshipKind.ownNames, RelationshipKind.isContainment]
          split <;> grind
      | childEntity | childrenEntities =>
          rw [← target]
          exact agrees.addBlock value _

theorem agrees_outline {relationships : List Relationship}
    (targets : ∀ relationship ∈ relationships, ∀ included,
      relationship.selector.outline included = relationship.selector.selections included)
    {walk : LevelWalk} {used : List String} {entries : List Selection}
    (agrees : walk.Agrees used entries) :
    (Relationship.outline walk relationships).Agrees (usedAfterAll used relationships)
      (entries ++ Relationship.selections used relationships) := by
  induction relationships generalizing walk used entries with
  | nil =>
      rw [selections_nil, List.append_nil, Relationship.outline]
      exact agrees
  | cons first rest ih =>
      have one := agrees_outline_singleton (targets first List.mem_cons_self) agrees
      have others := ih (fun relationship member =>
        targets relationship (List.mem_cons_of_mem _ member)) one
      rw [outline_cons, usedAfterAll_cons, selections_cons, ← List.append_assoc]
      exact others

end Relationship

/-- **The selection set of a selector is its outline.** -/
theorem Selector.selections_eq_outline (selector : Selector) :
    ∀ included, selector.outline included = selector.selections included := by
  induction selector using Selector.induction with
  | node relationships fields targets =>
      intro included
      have agrees : (Relationship.outline {} relationships).Agrees
          (Relationship.usedAfterAll [] relationships)
          (Relationship.selections [] relationships) :=
        Relationship.agrees_outline targets ⟨by simp, rfl⟩
      rw [Selector.outline, agrees.foldl_addLeaf, Selector.selections]

/-! ## Names of a selection set -/

theorem Selection.mem_names_of_leaves {used requested : List String} {name : String}
    (member : name ∈ namesOfAll (leaves used requested)) : name ∈ requested := by
  induction requested generalizing used with
  | nil => simp [leaves, namesOfAll] at member
  | cons first rest ih =>
      rw [leaves] at member
      split at member
      · exact List.mem_cons_of_mem _ (ih member)
      · simp only [namesOfAll, names, List.singleton_append, List.mem_cons] at member
        rcases member with rfl | member
        · exact List.mem_cons_self
        · exact List.mem_cons_of_mem _ (ih member)

/-- The entries of a relationship have only its keys and names of its target. -/
theorem Relationship.mem_names_of_entries {used : List String} {relationship : Relationship}
    (target : ∀ included, ∀ name ∈ namesOfAll (relationship.selector.selections included),
      name ∈ included ∨ name ∈ relationship.selector.names)
    {name : String} (member : name ∈ namesOfAll (relationship.entries used)) :
    relationship.keyId = some name ∨ relationship.keyValue = some name ∨
      name ∈ relationship.selector.names := by
  cases result : relationship.resolve used with
  | error cause =>
      rw [entries_of_error result] at member
      cases member
  | ok keys =>
      obtain ⟨keyId, keyValue, -⟩ := resolve_eq_ok_iff.mp result
      rw [entries_of_ok result, mem_namesOfAll_append] at member
      rcases member with line | inBlock
      · left
        cases key : relationship.kind.keyLine? keys used with
        | none =>
            rw [key] at line
            cases line
        | some id =>
            rw [key] at line
            obtain rfl : name = id := by simpa [namesOfAll, Selection.names] using line
            obtain ⟨-, rfl, -⟩ := RelationshipKind.keyLine?_eq_some_iff.mp key
            exact keyId
      · simp only [namesOfAll, Selection.names, List.append_nil, List.mem_cons] at inBlock
        rcases inBlock with rfl | inBody
        · exact .inr (.inl keyValue)
        · rcases target _ _ inBody with passed | known
          · obtain ⟨-, rfl⟩ := RelationshipKind.mem_passedDown_iff.mp passed
            exact .inl keyId
          · exact .inr (.inr known)

theorem Relationship.mem_names_of_selections {relationships : List Relationship}
    (targets : ∀ relationship ∈ relationships, ∀ included,
      ∀ name ∈ namesOfAll (relationship.selector.selections included),
        name ∈ included ∨ name ∈ relationship.selector.names)
    {used : List String} {name : String}
    (member : name ∈ namesOfAll (Relationship.selections used relationships)) :
    name ∈ Relationship.names relationships := by
  induction relationships generalizing used with
  | nil =>
      rw [selections_nil] at member
      cases member
  | cons first rest ih =>
      rw [selections_cons, mem_namesOfAll_append] at member
      rcases member with own | other
      · exact mem_names_iff.mpr ⟨first, List.mem_cons_self,
          mem_names_of_entries (targets first List.mem_cons_self) own⟩
      · have known := ih (fun relationship inRest =>
          targets relationship (List.mem_cons_of_mem _ inRest)) other
        obtain ⟨relationship, inRest, key⟩ := mem_names_iff.mp known
        exact mem_names_iff.mpr ⟨relationship, List.mem_cons_of_mem _ inRest, key⟩

/-- A selection set has only names of the selector and names that were included. -/
theorem Selector.mem_names_of_selections (selector : Selector) :
    ∀ included, ∀ name ∈ namesOfAll (selector.selections included),
      name ∈ included ∨ name ∈ selector.names := by
  induction selector using Selector.induction with
  | node relationships fields targets =>
      intro included name member
      rw [Selector.selections, mem_namesOfAll_append] at member
      simp only [Selector.names, List.mem_append]
      rcases member with own | requested
      · exact .inr (.inl (Relationship.mem_names_of_selections targets own))
      · rcases List.mem_append.mp (mem_names_of_leaves requested) with included | field
        · exact .inl included
        · exact .inr (.inr field)

/-! ## Reading the text -/

/-- **The text of a selector can be read, and it reads as the outline.** -/
theorem parse_compile (selector : Selector) (options : CompileOptions)
    (words : ∀ name ∈ options.included ++ selector.names, Token.IsWord name)
    (blank : ∀ c ∈ options.unit.toList, Text.isBlank c = true) :
    Selection.parse (Token.ofText (selector.compile options)) =
      some (selector.outline options.included) := by
  have spelled : Token.ofText (selector.compile options) =
      tokensOfAll (selector.selections options.included) :=
    ofText_textOfAll blank options.depth fun name member =>
      words name (List.mem_append.mpr (selector.mem_names_of_selections _ name member))
  rw [parse_eq_some_iff, spelled, selector.selections_eq_outline]

/-- An article: an author by reference, a cover without an identifier, comments with
authors of their own, and a second relationship with the field `author`. -/
def articleSelector : Selector :=
  ⟨[.between .associative "authorId" "author" ⟨[], ["name"]⟩,
      ⟨.childEntity, none, some "cover", ⟨[], ["url"]⟩⟩,
      .between .childrenEntities "postId" "comments"
        ⟨[.between .associative "authorId" "author" ⟨[], []⟩], ["body", "postId"]⟩,
      .between .childEntity "id" "author" ⟨[], ["email"]⟩],
    ["title", "authorId", "title"]⟩

theorem parse_compile_article :
    (∀ name ∈ ["version", "comments"] ++ articleSelector.names, Token.IsWord name) ∧
      (∀ c ∈ "\t ".toList, Text.isBlank c = true) ∧
      Selection.parse (Token.ofText
          (articleSelector.compile ⟨["version", "comments"], "\t ", 1⟩)) =
        some [leaf "authorId", block "author" [leaf "name"],
          block "comments" [leaf "authorId", block "author" [], leaf "postId", leaf "body"],
          leaf "version", leaf "title"] := by
  have words : ∀ name ∈ ["version", "comments"] ++ articleSelector.names, Token.IsWord name := by
    decide
  have blank : ∀ c ∈ "\t ".toList, Text.isBlank c = true := List.all_eq_true.mp (by decide)
  exact ⟨words, blank,
    parse_compile articleSelector ⟨["version", "comments"], "\t ", 1⟩ words blank⟩

end GraphSelect
