import GraphSelect.Proofs.Selection.Identifiers
import GraphSelect.Proofs.Selection.Pass

/-!
# Selecting more

A path of names is selected when it leads through the blocks of a selection set to an
entry (`Selection.Selects`). A level covers another when it selects all of its paths, as
a block or as a leaf.

What is appended to a node, a field or a relationship of any sort, comes behind what the
node has. It can take the place of an included name or a field, and then it has an entry
of that name itself, so the level covers the one before (`Relationship.covers_leaves`).
The targets of relationships do not decide which of them have blocks, so this passes up
to the root, and no selected path is lost (`selects_of_appended`).
-/

set_option autoImplicit false

namespace GraphSelect

open Selection

/-! ## Selected paths -/

namespace Selection

/-- The names lead from a level through blocks to an entry. -/
inductive Selects : List Selection → List String → Prop
  | entry {level : List Selection} {entry : Selection} (member : entry ∈ level) :
      Selects level [entry.name]
  | inside {level body : List Selection} {name : String} {path : List String}
      (member : block name body ∈ level) (selects : Selects body path) :
      Selects level (name :: path)

theorem selects_append_iff {front back : List Selection} {path : List String} :
    Selects (front ++ back) path ↔ Selects front path ∨ Selects back path := by
  constructor
  · intro selects
    cases selects with
    | entry member =>
        rcases List.mem_append.mp member with inFront | inBack
        · exact .inl (.entry inFront)
        · exact .inr (.entry inBack)
    | inside member selects =>
        rcases List.mem_append.mp member with inFront | inBack
        · exact .inl (.inside inFront selects)
        · exact .inr (.inside inBack selects)
  · rintro (selects | selects)
    · cases selects with
      | entry member => exact .entry (List.mem_append_left back member)
      | inside member selects => exact .inside (List.mem_append_left back member) selects
    · cases selects with
      | entry member => exact .entry (List.mem_append_right front member)
      | inside member selects => exact .inside (List.mem_append_right front member) selects

/-- A name of a level is selected, whether it has a block or not. -/
theorem selects_of_mem_levelNames {level : List Selection} {name : String}
    (member : name ∈ levelNames level) : Selects level [name] := by
  obtain ⟨entry, inLevel, rfl⟩ := List.mem_map.mp member
  exact .entry inLevel

/-- Every path that is selected on the first level is selected on the second. -/
def Covers (level wider : List Selection) : Prop := ∀ path, Selects level path → Selects wider path

namespace Covers

theorem refl (level : List Selection) : Covers level level := fun _ selects => selects

theorem append {front back front' back' : List Selection} (fronts : Covers front front')
    (backs : Covers back back') : Covers (front ++ back) (front' ++ back') := by
  intro path selects
  rcases selects_append_iff.mp selects with inFront | inBack
  · exact selects_append_iff.mpr (.inl (fronts path inFront))
  · exact selects_append_iff.mpr (.inr (backs path inBack))

/-- A block covers one of the same name when its body covers the other body. -/
theorem block {name : String} {body wider : List Selection} (covers : Covers body wider) :
    Covers [.block name body] [.block name wider] := by
  intro path selects
  cases selects with
  | entry member =>
      obtain rfl := List.mem_singleton.mp member
      exact selects_of_mem_levelNames (List.mem_singleton.mpr rfl)
  | inside member selects =>
      cases List.mem_singleton.mp member
      exact .inside List.mem_cons_self (covers _ selects)

end Covers

/-- Leaves are covered where all of their names are. -/
theorem covers_leaves {used requested : List String} {wider : List Selection}
    (named : ∀ name ∈ requested, name ∉ used → name ∈ levelNames wider) :
    Covers (leaves used requested) wider := by
  intro path selects
  cases selects with
  | entry member =>
      obtain ⟨member, free⟩ := mem_levelNames_leaves_iff.mp (List.mem_map_of_mem member)
      exact selects_of_mem_levelNames (named _ member free)
  | inside member selects =>
      obtain ⟨other, same⟩ := exists_leaf_of_mem_leaves member
      cases same

end Selection

/-! ## Appending -/

/-- The selector is the other one with one more field or relationship at the end of a
node, its own or one below it. -/
inductive Selector.Appended : Selector → Selector → Prop
  | field (selector : Selector) (name : String) : Appended selector (selector.field name)
  | relationship (selector : Selector) (relationship : Relationship) :
      Appended selector (selector.relationship relationship)
  | within {parent : Relationship} {target : Selector} (appended : Appended parent.selector target)
      (earlier later : List Relationship) (fields : List String) :
      Appended ⟨earlier ++ parent :: later, fields⟩
        ⟨earlier ++ { parent with selector := target } :: later, fields⟩

/-- The names that a further relationship takes away from the requested ones are its
own. -/
theorem Relationship.covers_leaves (used requested : List String) (relationship : Relationship) :
    Covers (leaves used requested)
      (relationship.entries used ++ leaves (relationship.usedAfter used) requested) := by
  refine Selection.covers_leaves fun name member free => ?_
  rw [levelNames, List.map_append, List.mem_append]
  by_cases taken : name ∈ relationship.usedAfter used
  · exact .inl (mem_levelNames_entries_iff.mpr ⟨free, taken⟩)
  · exact .inr (mem_levelNames_leaves_iff.mpr ⟨member, taken⟩)

/-- What a relationship adds grows with the selection sets of its target. -/
theorem Relationship.covers_entries {relationship : Relationship} {target : Selector}
    (covers : ∀ included, Covers (relationship.selector.selections included)
      (target.selections included)) (used : List String) :
    Covers (relationship.entries used)
      (entries used { relationship with selector := target }) := by
  cases result : relationship.resolve used with
  | error cause =>
      rw [entries_of_error result]
      intro path selects
      cases selects <;> contradiction
  | ok keys =>
      have resolved : resolve used { relationship with selector := target } = .ok keys := result
      rw [entries_of_ok result, entries_of_ok resolved]
      exact (Covers.refl _).append (covers (relationship.kind.passedDown keys)).block

/-- **Appending to a node keeps all paths, from every level on.** -/
theorem Selector.Appended.covers {selector extended : Selector}
    (appended : Appended selector extended) :
    ∀ included, Covers (selector.selections included) (extended.selections included) := by
  induction appended with
  | field selector name =>
      obtain ⟨relationships, fields⟩ := selector
      intro included
      rw [Selector.field, Selector.selections, Selector.selections]
      refine (Covers.refl _).append (Selection.covers_leaves fun other member free => ?_)
      rw [mem_levelNames_leaves_iff, ← List.append_assoc]
      exact ⟨List.mem_append_left [name] member, free⟩
  | relationship selector relationship =>
      obtain ⟨relationships, fields⟩ := selector
      intro included
      rw [Selector.relationship, Selector.selections, Selector.selections,
        Relationship.selections_append, Relationship.selections_cons,
        Relationship.selections_nil, List.append_nil, Relationship.usedAfterAll_append,
        List.append_assoc]
      exact (Covers.refl _).append (relationship.covers_leaves _ _)
  | @within parent target appended earlier later fields ih =>
      intro included
      -- the target does not show in the names that the parent takes
      have used_eq : ∀ used, Relationship.usedAfter used { parent with selector := target } =
          parent.usedAfter used := fun _ => rfl
      simp only [Selector.selections, Relationship.selections_append,
        Relationship.selections_cons, Relationship.usedAfterAll_append,
        Relationship.usedAfterAll_cons, used_eq, List.append_assoc]
      exact (Covers.refl _).append ((Relationship.covers_entries ih _).append (Covers.refl _))

/-- **Appending never drops what was selected.** A field or a relationship is appended at
the end of a node. Every path that a compilation selects before, with any options, it also
selects after. The selection sets are those that the two compilations lay out. -/
theorem selects_of_appended {selector extended : Selector} (appended : selector.Appended extended)
    (options : CompileOptions) {path : List String}
    (selects : Selects (selector.selections options.included) path) :
    Selects (extended.selections options.included) path ∧
      selector.LaysOut options (selector.selections options.included) ∧
      extended.LaysOut options (extended.selections options.included) :=
  ⟨appended.covers options.included path selects, selector.laysOut_selections options,
    extended.laysOut_selections options⟩

/-- The post with one more relationship at its comments. It puts a line in the place of the
included `postId` and a block in the place of the field `body`. -/
def repliedSelector : Selector :=
  ⟨[.between .childrenEntities "postId" "comments"
        (commentSelector.relationship (.between .associative "postId" "body" ⟨[], ["text"]⟩)),
      .between .associative "postId" "origin" .empty], ["title", "postId"]⟩

theorem selects_of_appended_post :
    postSelector.Appended repliedSelector ∧
      Selects (postSelector.selections ["id"]) ["comments", "body"] ∧
      Selects (repliedSelector.selections ["id"]) ["comments", "body"] := by
  have appended : postSelector.Appended repliedSelector :=
    .within (.relationship commentSelector _) []
      [.between .associative "postId" "origin" .empty] ["title", "postId"]
  have comments : block "comments" [leaf "authorId", block "author" [leaf "name"], leaf "postId",
      leaf "body"] ∈ postSelector.selections ["id"] := List.mem_cons_self
  have selects : Selects (postSelector.selections ["id"]) ["comments", "body"] := by
    refine .inside comments ?_
    exact selects_of_mem_levelNames (by decide)
  exact ⟨appended, selects, (selects_of_appended appended ⟨["id"], "", 0⟩ selects).1⟩

end GraphSelect
