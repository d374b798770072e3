import GraphSelect.Proofs.Selection.Pass
import GraphSelect.Proofs.Selection.Uniqueness

/-!
# Where identifiers stand

The names of a level are the ones that its relationships take, the included names and
the fields, and no others (`Selector.mem_levelNames_iff`).

Compiling a selector compiles nodes below it on the way, each with options of its own
(`Selector.Compiles`), and what a node is compiled to is a part of the text
(`Selector.Compiles.exists_text`). The kind of a relationship decides on which side of its
block the identifier stands. A containment has it inside, and beside the block only on
somebody else's account. An associative relationship has it beside the block, and inside
stands what the target is compiled to by itself (`identifier_placed`).
-/

set_option autoImplicit false

namespace GraphSelect

open Selection

/-! ## The names of a level -/

/-- A requested name has an entry exactly when it was not used before. -/
theorem Selection.mem_levelNames_leaves_iff {used requested : List String} {name : String} :
    name ∈ levelNames (leaves used requested) ↔ name ∈ requested ∧ name ∉ used := by
  induction requested generalizing used with
  | nil => simp [leaves]
  | cons first rest ih =>
      rw [leaves]
      split
      · next taken =>
        rw [ih, List.mem_cons]
        constructor
        · rintro ⟨member, free⟩
          exact ⟨.inr member, free⟩
        · rintro ⟨rfl | member, free⟩
          · exact absurd taken free
          · exact ⟨member, free⟩
      · next free =>
        rw [levelNames, List.map_cons, List.mem_cons, ih, List.mem_cons, List.mem_cons, not_or]
        constructor
        · rintro (rfl | ⟨member, -, unused⟩)
          · exact ⟨.inl rfl, free⟩
          · exact ⟨.inr member, unused⟩
        · rintro ⟨rfl | member, unused⟩
          · exact .inl rfl
          · by_cases same : name = first
            · exact .inl same
            · exact .inr ⟨member, same, unused⟩

namespace Relationship

/-- The names that a relationship adds are the ones that are used only after it. -/
theorem mem_levelNames_entries_iff {used : List String} {relationship : Relationship}
    {name : String} :
    name ∈ levelNames (relationship.entries used) ↔
      name ∉ used ∧ name ∈ relationship.usedAfter used := by
  refine ⟨of_mem_levelNames_entries, ?_⟩
  rintro ⟨free, taken⟩
  obtain inUse | ⟨keys, resolved, own⟩ := mem_usedAfter_iff.mp taken
  · exact absurd inUse free
  · rw [levelNames_entries_of_ok resolved, List.mem_append, Option.mem_toList,
      List.mem_singleton]
    rcases RelationshipKind.mem_ownNames_iff.mp own with rfl | ⟨kind, rfl⟩
    · exact .inr rfl
    · exact .inl (RelationshipKind.keyLine?_eq_some_iff.mpr ⟨kind, rfl, free⟩)

theorem mem_levelNames_selections_iff {used : List String} {relationships : List Relationship}
    {name : String} :
    name ∈ levelNames (Relationship.selections used relationships) ↔
      name ∉ used ∧ name ∈ usedAfterAll used relationships := by
  refine ⟨of_mem_levelNames_selections, ?_⟩
  induction relationships generalizing used with
  | nil =>
      rintro ⟨free, taken⟩
      exact absurd taken free
  | cons first rest ih =>
      rintro ⟨free, taken⟩
      rw [selections_cons, levelNames, List.map_append, List.mem_append]
      by_cases own : name ∈ first.usedAfter used
      · exact .inl (mem_levelNames_entries_iff.mpr ⟨free, own⟩)
      · exact .inr (ih ⟨own, taken⟩)

end Relationship

/-- **The names of a level are those that its relationships take, the included names and
the fields.** -/
theorem Selector.mem_levelNames_iff {selector : Selector} {included : List String}
    {name : String} :
    name ∈ levelNames (selector.selections included) ↔
      Relationship.Takes selector.relationships name ∨ name ∈ included ∨
        name ∈ selector.fields := by
  obtain ⟨relationships, fields⟩ := selector
  rw [Selector.selections, levelNames, List.map_append, List.mem_append,
    Relationship.mem_levelNames_selections_iff, mem_levelNames_leaves_iff, List.mem_append,
    ← Relationship.mem_usedAfterAll_iff]
  constructor
  · rintro (⟨-, taken⟩ | ⟨requested, -⟩)
    · exact .inl taken
    · exact .inr requested
  · rintro (taken | requested)
    · exact .inl ⟨List.not_mem_nil, taken⟩
    · by_cases taken : name ∈ Relationship.usedAfterAll [] relationships
      · exact .inl ⟨List.not_mem_nil, taken⟩
      · exact .inr ⟨requested, taken⟩

/-! ## The nodes that are compiled on the way -/

/-- Compiling the selector with the options compiles a node with options of its own. -/
inductive Selector.Compiles (selector : Selector) (options : CompileOptions) :
    Selector → CompileOptions → Prop
  | root : Compiles selector options selector options
  /-- The target of a relationship with a block is compiled one level deeper, with the
  names that the kind passes down. -/
  | target {node : Selector} {inner : CompileOptions} {earlier later : List Relationship}
      {relationship : Relationship} {keys : Keys} (compiled : Compiles selector options node inner)
      (split : node.relationships = earlier ++ relationship :: later)
      (resolved : relationship.resolve (Relationship.usedAfterAll [] earlier) = .ok keys) :
      Compiles selector options relationship.selector
        ⟨relationship.kind.passedDown keys, inner.unit, inner.depth + 1⟩

/-- The relationship, taken in after its earlier siblings, adds the lines and then the
block to what the siblings give. -/
def Relationship.Adds (relationship : Relationship) (earlier : List Relationship)
    (lines : List Selection) (field : String) (body : List Selection) : Prop :=
  Relationship.selections [] (earlier ++ [relationship]) =
    Relationship.selections [] earlier ++ lines ++ [block field body]

theorem Relationship.adds_iff {relationship : Relationship} {earlier : List Relationship}
    {lines : List Selection} {field : String} {body : List Selection} :
    relationship.Adds earlier lines field body ↔
      relationship.entries (usedAfterAll [] earlier) = lines ++ [block field body] := by
  rw [Adds, selections_append, selections_cons, selections_nil, List.append_nil,
    List.append_assoc, List.append_cancel_left_eq]

/-- A relationship that adds a block has keys, and the body is the selection set of the
target. -/
theorem Relationship.Adds.exists_keys {relationship : Relationship} {earlier : List Relationship}
    {lines : List Selection} {field : String} {body : List Selection}
    (adds : relationship.Adds earlier lines field body) :
    ∃ keys, relationship.resolve (usedAfterAll [] earlier) = .ok keys ∧ keys.value = field ∧
      relationship.selector.selections (relationship.kind.passedDown keys) = body := by
  have member : block field body ∈ relationship.entries (usedAfterAll [] earlier) := by
    rw [adds_iff.mp adds]
    exact List.mem_append_right lines List.mem_cons_self
  exact block_mem_entries_iff.mp member

/-- The selection set of a node, taken apart at one of its relationships. -/
theorem Selector.exists_selections_eq {node : Selector} {earlier later : List Relationship}
    {relationship : Relationship} (included : List String)
    (split : node.relationships = earlier ++ relationship :: later) :
    ∃ rest, node.selections included = Relationship.selections [] earlier ++
      relationship.entries (Relationship.usedAfterAll [] earlier) ++ rest := by
  obtain ⟨relationships, fields⟩ := node
  obtain rfl : relationships = earlier ++ relationship :: later := split
  rw [Selector.selections, Relationship.selections_append, Relationship.selections_cons,
    ← List.append_assoc (Relationship.selections [] earlier), List.append_assoc]
  exact ⟨_, rfl⟩

/-- The block of a relationship stands behind what its earlier siblings give and its own
lines. -/
theorem Selector.exists_compile_eq {node : Selector} {earlier later : List Relationship}
    {relationship : Relationship} {lines : List Selection} {field : String}
    {body : List Selection} (options : CompileOptions)
    (split : node.relationships = earlier ++ relationship :: later)
    (adds : relationship.Adds earlier lines field body) :
    ∃ rest, node.compile options =
      textOfAll options.unit options.depth (Relationship.selections [] earlier ++ lines) ++
        text options.unit options.depth (block field body) ++ rest := by
  obtain ⟨rest, level⟩ := exists_selections_eq options.included split
  have single : textOfAll options.unit options.depth [block field body] =
      text options.unit options.depth (block field body) := by
    rw [textOfAll, textOfAll, String.append_empty]
  refine ⟨textOfAll options.unit options.depth rest, ?_⟩
  rw [compile, level, Relationship.adds_iff.mp adds, ← List.append_assoc, textOfAll_append,
    textOfAll_append _ _ _ [block field body], single]

/-- **What a node is compiled to is a part of the whole text.** -/
theorem Selector.Compiles.exists_text {selector node : Selector} {options inner : CompileOptions}
    (compiled : selector.Compiles options node inner) :
    ∃ front back, selector.compile options = front ++ node.compile inner ++ back := by
  induction compiled with
  | root => exact ⟨"", "", by rw [String.empty_append, String.append_empty]⟩
  | @target node inner earlier later relationship keys compiled split resolved ih =>
      obtain ⟨front, back, whole⟩ := ih
      obtain ⟨lines, adds⟩ : ∃ lines, relationship.Adds earlier lines keys.value
          (relationship.selector.selections (relationship.kind.passedDown keys)) :=
        ⟨_, Relationship.adds_iff.mpr (Relationship.entries_of_ok resolved)⟩
      obtain ⟨rest, level⟩ := exists_compile_eq inner split adds
      rw [text] at level
      refine ⟨front ++ (textOfAll inner.unit inner.depth
          (Relationship.selections [] earlier ++ lines) ++
            (margin inner.unit inner.depth ++ keys.value ++ " \x7b\n")),
        margin inner.unit inner.depth ++ "\x7d" ++ closingEnd inner.unit ++ rest ++ back, ?_⟩
      rw [whole, level]
      simp only [Selector.compile, String.append_assoc]

/-! ## Identifiers -/

/-- A relationship with a block, at another position of the level, has the name as its
field, or, when it is associative, as its identifier. -/
def Selector.TakesElsewhere (node : Selector) (position : Nat) (name : String) : Prop :=
  ∃ before sibling after, node.relationships = before ++ sibling :: after ∧
    before.length ≠ position ∧ sibling.AddsBlock before ∧
      (sibling.keyValue = some name ∨ sibling.kind = .associative ∧ sibling.keyId = some name)

/-- Where the identifier of a relationship stands, when the relationship has the block
`field` with the body on the level of the node. -/
structure Relationship.PlacesIdentifier (relationship : Relationship) (node : Selector)
    (options : CompileOptions) (position : Nat) (field : String) (body : List Selection)
    (id : String) : Prop where
  keys?_eq : relationship.keys? = some ⟨id, field⟩
  /-- The identifier of a containment is inside the block, which is never empty, -/
  inside : relationship.kind ≠ .associative → id ∈ levelNames body ∧ body ≠ []
  /-- and beside it exactly when its own field or something else asks for the name. -/
  beside_iff : relationship.kind ≠ .associative →
    (id ∈ levelNames (node.selections options.included) ↔
      node.TakesElsewhere position id ∨ field = id ∨ id ∈ options.included ∨ id ∈ node.fields)
  /-- The identifier of an associative relationship is beside the block, -/
  beside : relationship.kind = .associative → id ∈ levelNames (node.selections options.included)
  /-- which holds the text of the target with nothing included. -/
  apart : relationship.kind = .associative →
    textOfAll options.unit (options.depth + 1) body =
      relationship.selector.compile ⟨[], options.unit, options.depth + 1⟩

/-- The names that the relationships of a level take, seen from the place of one of them
that is no associative relationship. -/
theorem Selector.takes_iff_of_containment {node : Selector} {earlier later : List Relationship}
    {relationship : Relationship} {name : String}
    (split : node.relationships = earlier ++ relationship :: later)
    (adds : relationship.AddsBlock earlier) (kind : relationship.kind ≠ .associative) :
    Relationship.Takes node.relationships name ↔
      node.TakesElsewhere earlier.length name ∨ relationship.keyValue = some name := by
  constructor
  · rintro ⟨before, sibling, after, split', taken, named⟩
    by_cases here : before.length = earlier.length
    · -- the sibling stands at the place of the relationship, so it is the relationship
      have same : before ++ sibling :: after = earlier ++ relationship :: later :=
        split'.symm.trans split
      obtain ⟨-, rest⟩ := List.append_inj same here
      obtain ⟨rfl, -⟩ := List.cons.inj rest
      exact .inr (named.resolve_right fun associative => kind associative.1)
    · exact .inl ⟨before, sibling, after, split', here, taken, named⟩
  · rintro (⟨before, sibling, after, split', -, taken, named⟩ | own)
    · exact ⟨before, sibling, after, split', taken, named⟩
    · exact ⟨earlier, relationship, later, split, adds, .inl own⟩

/-- **The kind of a relationship decides where its identifier stands.** This holds for
every relationship that adds a block to a level of a compilation, at any depth. The block
stands in the text behind what the earlier siblings and the line of the relationship give. -/
theorem identifier_placed {selector node : Selector} {options inner : CompileOptions}
    (compiled : selector.Compiles options node inner) {earlier later : List Relationship}
    {relationship : Relationship} (split : node.relationships = earlier ++ relationship :: later)
    {lines : List Selection} {field : String} {body : List Selection}
    (adds : relationship.Adds earlier lines field body) :
    (∃ front back, selector.compile options =
        front ++ (textOfAll inner.unit inner.depth (Relationship.selections [] earlier ++ lines) ++
          text inner.unit inner.depth (block field body)) ++ back) ∧
      ∃ id, relationship.PlacesIdentifier node inner earlier.length field body id := by
  constructor
  · obtain ⟨front, back, whole⟩ := compiled.exists_text
    obtain ⟨rest, level⟩ := Selector.exists_compile_eq inner split adds
    refine ⟨front, rest ++ back, ?_⟩
    rw [whole, level]
    simp only [String.append_assoc]
  · obtain ⟨⟨id, value⟩, resolved, rfl, rfl⟩ := adds.exists_keys
    have addsBlock : relationship.AddsBlock earlier := ⟨_, _, _, adds⟩
    obtain ⟨keyId, keyValue, -⟩ := Relationship.resolve_eq_ok_iff.mp resolved
    have passed : relationship.kind ≠ .associative → id ∈ levelNames
        (relationship.selector.selections (relationship.kind.passedDown ⟨id, value⟩)) := by
      intro kind
      exact Selector.mem_levelNames_iff.mpr
        (.inr (.inl (RelationshipKind.mem_passedDown_iff.mpr ⟨kind, rfl⟩)))
    refine ⟨id, ?_, ?_, ?_, ?_, ?_⟩
    · simp only [Relationship.keys?, keyId, keyValue]
    · intro kind
      refine ⟨passed kind, fun empty => ?_⟩
      have member := passed kind
      rw [empty] at member
      cases member
    · intro kind
      rw [Selector.mem_levelNames_iff, Selector.takes_iff_of_containment split addsBlock kind,
        keyValue, Option.some.injEq, or_assoc]
    · intro kind
      exact Selector.mem_levelNames_iff.mpr
        (.inl ⟨earlier, relationship, later, split, addsBlock, .inr ⟨kind, keyId⟩⟩)
    · intro kind
      rw [kind]
      rfl

/-- Comments that refer to their authors, and have a field of the same name. -/
def commentSelector : Selector :=
  ⟨[.between .associative "authorId" "author" ⟨[], ["name"]⟩], ["author", "body"]⟩

/-- A post with its comments, which a later relationship and a field name like the
identifier of the comments. -/
def postSelector : Selector :=
  ⟨[.between .childrenEntities "postId" "comments" commentSelector,
      .between .associative "postId" "origin" .empty], ["title", "postId"]⟩

theorem identifier_placed_post :
    (∃ id, (Relationship.between .childrenEntities "postId" "comments"
        commentSelector).PlacesIdentifier postSelector ⟨["id"], "  ", 1⟩ 0 "comments"
        [leaf "authorId", block "author" [leaf "name"], leaf "postId", leaf "body"] id) ∧
      postSelector.Compiles ⟨["id"], "  ", 1⟩ commentSelector ⟨["postId"], "  ", 2⟩ ∧
      (Relationship.between .associative "authorId" "author" ⟨[], ["name"]⟩).Adds []
        [leaf "authorId"] "author" [leaf "name"] ∧
      (∃ front back, postSelector.compile ⟨["id"], "  ", 1⟩ =
        front ++ ("    authorId\n" ++ "    author \x7b\n      name\n    \x7d\n") ++ back) ∧
      ∃ id, (Relationship.between .associative "authorId" "author"
          ⟨[], ["name"]⟩).PlacesIdentifier commentSelector ⟨["postId"], "  ", 2⟩ 0 "author"
          [leaf "name"] id := by
  have outer : (Relationship.between .childrenEntities "postId" "comments" commentSelector).Adds
      [] [] "comments"
        [leaf "authorId", block "author" [leaf "name"], leaf "postId", leaf "body"] := rfl
  have inner : (Relationship.between .associative "authorId" "author" ⟨[], ["name"]⟩).Adds []
      [leaf "authorId"] "author" [leaf "name"] := rfl
  have resolved : (Relationship.between .childrenEntities "postId" "comments"
      commentSelector).resolve (Relationship.usedAfterAll [] []) =
        .ok ⟨"postId", "comments"⟩ := rfl
  have compiled : postSelector.Compiles ⟨["id"], "  ", 1⟩ commentSelector
      ⟨["postId"], "  ", 2⟩ := .target .root rfl resolved
  obtain ⟨text, placed⟩ := identifier_placed compiled rfl inner
  exact ⟨(identifier_placed .root rfl outer).2, compiled, inner, text, placed⟩

end GraphSelect
