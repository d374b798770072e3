import GraphSelect.Proofs.Number.Digits
import GraphSelect.Proofs.Selection.Level
import GraphSelect.Selection.Omission

/-!
# Reached relationships

A relationship is reached when every relationship above it adds a block. The reached
relationships of a selector are listed in the order of the document
(`Selector.mem_visits_iff`, `Selector.pairwise_visits`). Each stands on a level of the
selection set, and that level starts with what the relationship and its earlier
siblings add (`Selector.Reaches.exists_isLevel`).

The positions on the way down to a relationship lead back to it
(`Selector.Reaches.follow?_eq`), and the text of a path determines the positions
(`SelectorPath.text_injective`).
-/

set_option autoImplicit false

namespace GraphSelect

open Selection

/-! ## The text of a path -/

namespace SelectorPath

/-- The step to one position in the text of a path. -/
def stepText (index : Nat) : String := ".relationships[" ++ index.repr ++ "]"

theorem toList_text (path : SelectorPath) :
    path.text.toList = '$' :: path.flatMap fun index => (stepText index).toList := by
  unfold text
  rw [String.toList_append, String.toList_join, List.flatMap_map]
  rfl

/-- The digits of a position end at the bracket, so texts that start with steps start
with the same one only for the same position. -/
theorem stepText_append_inj {first second : Nat} {rest rest' : List Char}
    (same : (stepText first).toList ++ rest = (stepText second).toList ++ rest') :
    first = second ∧ rest = rest' := by
  have bracket : "]".toList = [']'] := rfl
  simp only [stepText, String.toList_append, List.append_assoc, List.append_cancel_left_eq,
    Nat.toList_repr, bracket, List.singleton_append] at same
  have ends : ∀ (rest : List Char), ∀ c ∈ (']' :: rest).head?, c.isDigit = false := by
    rintro rest c ⟨⟩
    rfl
  have digits : Nat.toDigits 10 first = Nat.toDigits 10 second := by
    have heads := congrArg (List.takeWhile Char.isDigit) same
    rwa [Text.takeWhile_toDigits (ends rest), Text.takeWhile_toDigits (ends rest')] at heads
  rw [digits] at same
  exact ⟨Text.toDigits_injective digits, (List.cons.inj (List.append_cancel_left same)).2⟩

/-- **Different paths have different texts.** -/
theorem text_injective : Function.Injective SelectorPath.text := by
  intro first second same
  have chars : (first.flatMap fun index => (stepText index).toList) =
      second.flatMap fun index => (stepText index).toList := by
    have texts := congrArg String.toList same
    rw [toList_text, toList_text] at texts
    exact (List.cons.inj texts).2
  clear same
  induction first generalizing second with
  | nil =>
      cases second with
      | nil => rfl
      | cons index rest => simp [stepText] at chars
  | cons index rest ih =>
      cases second with
      | nil => simp [stepText] at chars
      | cons index' rest' =>
          rw [List.flatMap_cons, List.flatMap_cons] at chars
          obtain ⟨rfl, others⟩ := stepText_append_inj chars
          rw [ih others]

end SelectorPath

/-! ## Reached relationships -/

/-- A relationship at its place: the positions on the way down to it, and its earlier
siblings. -/
structure Visit where
  path : SelectorPath
  earlier : List Relationship
  relationship : Relationship

/-- The place below the relationship at a position. -/
def Visit.below (index : Nat) (visit : Visit) : Visit :=
  { visit with path := index :: visit.path }

namespace Selector

/-- The relationship stands at its place in the selector, and every relationship above
it adds a block. -/
inductive Reaches : Selector → Visit → Prop
  | here (earlier : List Relationship) (relationship : Relationship)
      (later : List Relationship) (fields : List String) :
      Reaches ⟨earlier ++ relationship :: later, fields⟩
        ⟨[earlier.length], earlier, relationship⟩
  | within {earlier : List Relationship} {parent : Relationship} {visit : Visit}
      (adds : parent.AddsBlock earlier) (reached : Reaches parent.selector visit)
      (later : List Relationship) (fields : List String) :
      Reaches ⟨earlier ++ parent :: later, fields⟩ (visit.below earlier.length)

theorem reaches_iff {relationships : List Relationship} {fields : List String}
    {visit : Visit} :
    Reaches ⟨relationships, fields⟩ visit ↔
      ∃ earlier relationship later, relationships = earlier ++ relationship :: later ∧
        (visit = ⟨[earlier.length], earlier, relationship⟩ ∨
          relationship.AddsBlock earlier ∧ ∃ inner, Reaches relationship.selector inner ∧
            visit = inner.below earlier.length) := by
  constructor
  · intro reached
    cases reached with
    | here earlier relationship later => exact ⟨earlier, relationship, later, rfl, .inl rfl⟩
    | within adds reached later =>
        exact ⟨_, _, later, rfl, .inr ⟨adds, _, reached, rfl⟩⟩
  · rintro ⟨earlier, relationship, later, rfl, rfl | ⟨adds, inner, reached, rfl⟩⟩
    · exact .here earlier relationship later fields
    · exact .within adds reached later fields

/-- The relationship at the end of a path. -/
def follow? : SelectorPath → Selector → Option Relationship
  | [], _ => none
  | [index], selector => selector.relationships[index]?
  | index :: rest, selector =>
    selector.relationships[index]?.bind fun relationship => follow? rest relationship.selector

/-- **The path of a place leads to the relationship that stands there.** -/
theorem Reaches.follow?_eq {selector : Selector} {visit : Visit}
    (reached : Reaches selector visit) :
    selector.follow? visit.path = some visit.relationship := by
  induction reached with
  | here earlier relationship later fields => simp [follow?]
  | @within earlier parent visit adds reached later fields ih =>
      obtain ⟨path, siblings, relationship⟩ := visit
      cases path with
      | nil => simp [follow?] at ih
      | cons index rest => simpa [Visit.below, follow?] using ih

/-- **A reached relationship stands on a level of the selection set.** The level starts
with what its earlier siblings and the relationship itself add. -/
theorem Reaches.exists_isLevel {selector : Selector} {visit : Visit}
    (reached : Reaches selector visit) : ∀ included, ∃ level,
      IsLevel (selector.selections included) level ∧
        Relationship.selections [] (visit.earlier ++ [visit.relationship]) <+: level := by
  induction reached with
  | here earlier relationship later fields =>
      intro included
      refine ⟨_, .root _, ?_⟩
      rw [Selector.selections, List.append_cons earlier relationship later,
        Relationship.selections_append [] (earlier ++ [relationship]) later, List.append_assoc]
      exact List.prefix_append _ _
  | @within earlier parent visit adds reached later fields ih =>
      intro included
      obtain ⟨keys, resolved⟩ := Relationship.addsBlock_iff.mp adds
      obtain ⟨level, isLevel, starts⟩ := ih (parent.kind.passedDown keys)
      exact ⟨level, .inside (Selector.block_mem_selections_iff.mpr
        ⟨earlier, parent, later, rfl, keys, resolved, rfl, rfl⟩) isLevel, starts⟩

end Selector

/-! ## The reached relationships in order -/

mutual

/-- The reached relationships of a selector, each before the ones below it. -/
def Selector.visits : Selector → List Visit
  | ⟨relationships, _⟩ => Relationship.visits [] relationships

/-- The reached relationships from a place of a level on. -/
def Relationship.visits (earlier : List Relationship) : List Relationship → List Visit
  | [] => []
  | relationship@⟨_, _, _, target⟩ :: rest =>
    ⟨[earlier.length], earlier, relationship⟩ ::
      ((if relationship.AddsBlock earlier then target.visits.map (Visit.below earlier.length)
        else []) ++
        Relationship.visits (earlier ++ [relationship]) rest)

end

namespace Relationship

/-- The reached relationships below one that stands after its earlier siblings. -/
def visitsBelow (earlier : List Relationship) (relationship : Relationship) : List Visit :=
  if relationship.AddsBlock earlier then
    relationship.selector.visits.map (Visit.below earlier.length)
  else []

theorem visits_cons (earlier : List Relationship) (relationship : Relationship)
    (rest : List Relationship) :
    visits earlier (relationship :: rest) =
      ⟨[earlier.length], earlier, relationship⟩ ::
        (relationship.visitsBelow earlier ++ visits (earlier ++ [relationship]) rest) := by
  obtain ⟨kind, keyId, keyValue, target⟩ := relationship
  rw [visits, visitsBelow]

theorem mem_visitsBelow_iff {earlier : List Relationship} {relationship : Relationship}
    {visit : Visit} :
    visit ∈ relationship.visitsBelow earlier ↔
      relationship.AddsBlock earlier ∧ ∃ inner ∈ relationship.selector.visits,
        visit = inner.below earlier.length := by
  unfold visitsBelow
  split
  · next adds => simp [adds, eq_comm]
  · next none => simp [none]

theorem mem_visits_iff {earlier relationships : List Relationship} {visit : Visit} :
    visit ∈ visits earlier relationships ↔
      ∃ before relationship after, relationships = before ++ relationship :: after ∧
        (visit = ⟨[(earlier ++ before).length], earlier ++ before, relationship⟩ ∨
          visit ∈ relationship.visitsBelow (earlier ++ before)) := by
  induction relationships generalizing earlier with
  | nil => simp [visits]
  | cons first rest ih =>
      rw [exists_split_cons_iff, visits_cons, List.mem_cons, List.mem_append, ih, ← or_assoc,
        List.append_nil]
      simp only [List.append_assoc, List.singleton_append]

end Relationship

/-- **The list holds exactly the reached relationships.** -/
theorem Selector.mem_visits_iff (selector : Selector) :
    ∀ visit, visit ∈ selector.visits ↔ selector.Reaches visit := by
  induction selector using Selector.induction with
  | node relationships fields targets =>
      intro visit
      rw [Selector.visits, Relationship.mem_visits_iff, Selector.reaches_iff]
      simp only [List.nil_append, Relationship.mem_visitsBelow_iff]
      refine exists_congr fun earlier => exists_congr fun relationship =>
        exists_congr fun later => and_congr_right fun split => ?_
      have member : relationship ∈ relationships := by simp [split]
      simp only [targets relationship member]

/-- The path of a place below a relationship goes on from its position. -/
theorem Relationship.path_of_mem_visitsBelow {earlier : List Relationship}
    {relationship : Relationship} {visit : Visit}
    (member : visit ∈ relationship.visitsBelow earlier) :
    ∃ index rest, visit.path = earlier.length :: index :: rest := by
  obtain ⟨-, inner, listed, rfl⟩ := mem_visitsBelow_iff.mp member
  have followed := ((Selector.mem_visits_iff _ _).mp listed).follow?_eq
  obtain ⟨path, siblings, other⟩ := inner
  cases path with
  | nil => cases followed
  | cons index rest => exact ⟨index, rest, rfl⟩

/-- The first position of a place is not before the place where the list starts. -/
theorem Relationship.path_of_mem_visits {earlier relationships : List Relationship}
    {visit : Visit} (member : visit ∈ Relationship.visits earlier relationships) :
    ∃ index rest, visit.path = index :: rest ∧ earlier.length ≤ index := by
  obtain ⟨before, relationship, after, -, here | below⟩ := mem_visits_iff.mp member
  · exact ⟨_, _, congrArg Visit.path here, by simp⟩
  · obtain ⟨index, rest, path⟩ := path_of_mem_visitsBelow below
    exact ⟨_, _, path, by simp⟩

theorem Relationship.pairwise_visits {relationships : List Relationship}
    (targets : ∀ relationship ∈ relationships,
      relationship.selector.visits.Pairwise fun first second => first.path < second.path) :
    ∀ earlier, (Relationship.visits earlier relationships).Pairwise
      fun first second => first.path < second.path := by
  induction relationships with
  | nil =>
      intro earlier
      rw [Relationship.visits]
      exact .nil
  | cons relationship rest ih =>
      intro earlier
      have others := ih fun other member => targets other (List.mem_cons_of_mem _ member)
      have after : ∀ visit ∈ Relationship.visits (earlier ++ [relationship]) rest,
          ∃ index rest, visit.path = index :: rest ∧ earlier.length < index := by
        intro visit member
        obtain ⟨index, rest, path, later⟩ := path_of_mem_visits member
        rw [List.length_append, List.length_singleton] at later
        exact ⟨index, rest, path, later⟩
      rw [visits_cons, List.pairwise_cons, List.pairwise_append]
      refine ⟨?_, ?_, others _, ?_⟩
      · intro visit member
        rcases List.mem_append.mp member with inside | outside
        · obtain ⟨index, rest, path⟩ := path_of_mem_visitsBelow inside
          rw [path]
          exact List.cons_lt_cons_iff.mpr (.inr ⟨rfl, List.nil_lt_cons _ _⟩)
        · obtain ⟨index, rest, path, later⟩ := after visit outside
          rw [path]
          exact List.cons_lt_cons_iff.mpr (.inl later)
      · unfold visitsBelow
        split
        · rw [List.pairwise_map]
          refine (targets relationship List.mem_cons_self).imp fun before => ?_
          exact List.cons_lt_cons_iff.mpr (.inr ⟨rfl, before⟩)
        · exact .nil
      · intro first inside second outside
        obtain ⟨index, rest, path⟩ := path_of_mem_visitsBelow inside
        obtain ⟨index', rest', path', later⟩ := after second outside
        rw [path, path']
        exact List.cons_lt_cons_iff.mpr (.inl later)

/-- **The list follows the order of the document.** -/
theorem Selector.pairwise_visits (selector : Selector) :
    selector.visits.Pairwise fun first second => first.path < second.path := by
  induction selector using Selector.induction with
  | node relationships fields targets =>
      rw [Selector.visits]
      exact Relationship.pairwise_visits targets []

end GraphSelect
