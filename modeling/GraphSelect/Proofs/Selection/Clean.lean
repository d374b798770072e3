import GraphSelect.Proofs.Selection.Reports

/-!
# Clean selectors

A selector is clean when, at every node, every relationship has both keys and its field
differs from the field of every earlier sibling and from the identifier of every earlier
associative sibling. This says nothing of what is left out on the way: it speaks of all
siblings, whether they have a block or not. Still it is the exact condition under which
every relationship has a block (`Selector.clean_iff_addsBlock`), hence under which there
is no diagnostic (`Selector.diagnostics_eq_nil_iff`).
-/

set_option autoImplicit false

namespace GraphSelect

/-- The field of the later sibling is neither the field of the earlier one nor, when
that one is associative, its identifier. -/
def Relationship.LeavesFree (earlier later : Relationship) : Prop :=
  earlier.keyValue ≠ later.keyValue ∧
    (earlier.kind = .associative → earlier.keyId ≠ later.keyValue)

/-- At every node every relationship has both keys, and every sibling leaves the fields
of the later ones free. -/
inductive Selector.Clean : Selector → Prop
  | node {relationships : List Relationship} {fields : List String}
      (keyed : ∀ relationship ∈ relationships,
        relationship.keyId ≠ none ∧ relationship.keyValue ≠ none)
      (apart : relationships.Pairwise Relationship.LeavesFree)
      (targets : ∀ relationship ∈ relationships, relationship.selector.Clean) :
      Selector.Clean ⟨relationships, fields⟩

/-- A sibling with a block takes the field of a later one exactly when it does not leave
it free. -/
theorem Relationship.not_leavesFree_iff {earlier later : Relationship} {field : String}
    (keyValue : later.keyValue = some field) :
    ¬earlier.LeavesFree later ↔
      earlier.keyValue = some field ∨ earlier.kind = .associative ∧ earlier.keyId = some field := by
  rw [LeavesFree, keyValue, not_and_or, not_not, Classical.not_imp, not_not]

/-- A relationship that is free of the siblings before it adds a block. -/
theorem Relationship.addsBlock_of_leavesFree {earlier : List Relationship}
    {relationship : Relationship} (keyId : relationship.keyId ≠ none)
    (keyValue : relationship.keyValue ≠ none)
    (apart : ∀ sibling ∈ earlier, sibling.LeavesFree relationship) :
    relationship.AddsBlock earlier := by
  obtain ⟨id, hasId⟩ := Option.ne_none_iff_exists'.mp keyId
  obtain ⟨value, hasValue⟩ := Option.ne_none_iff_exists'.mp keyValue
  refine addsBlock_iff.mpr ⟨⟨id, value⟩, resolve_eq_ok_iff.mpr ⟨hasId, hasValue, ?_⟩⟩
  rw [mem_usedAfterAll_iff]
  rintro ⟨before, sibling, after, rfl, -, named⟩
  exact (not_leavesFree_iff hasValue).mpr named (apart sibling (by simp))

/-- A relationship with a block is free of the siblings that have one. -/
theorem Relationship.leavesFree_of_addsBlock {before after : List Relationship}
    {sibling relationship : Relationship} (taken : sibling.AddsBlock before)
    (adds : relationship.AddsBlock (before ++ sibling :: after)) :
    sibling.LeavesFree relationship := by
  obtain ⟨keys, resolved⟩ := addsBlock_iff.mp adds
  obtain ⟨-, hasValue, free⟩ := resolve_eq_ok_iff.mp resolved
  by_contra notFree
  exact free (mem_usedAfterAll_iff.mpr
    ⟨before, sibling, after, rfl, taken, (not_leavesFree_iff hasValue).mp notFree⟩)

/-- **In a clean selector every relationship has a block, and only there.** -/
theorem Selector.clean_iff_addsBlock (selector : Selector) :
    selector.Clean ↔ ∀ visit, selector.Reaches visit →
      visit.relationship.AddsBlock visit.earlier := by
  constructor
  · intro clean visit reached
    induction reached with
    | here earlier relationship later fields =>
        obtain ⟨keyed, apart, -⟩ := clean
        obtain ⟨keyId, keyValue⟩ := keyed relationship (by simp)
        exact Relationship.addsBlock_of_leavesFree keyId keyValue fun sibling before =>
          (List.pairwise_append.mp apart).2.2 sibling before relationship List.mem_cons_self
    | within _ _ later fields ih =>
        obtain ⟨-, -, targets⟩ := clean
        exact ih (targets _ (by simp))
  · induction selector using Selector.induction with
    | node relationships fields targets =>
        intro all
        -- a relationship of this node is reached whatever its siblings are
        have own : ∀ earlier relationship later,
            relationships = earlier ++ relationship :: later →
              relationship.AddsBlock earlier := by
          rintro earlier relationship later rfl
          exact all _ (.here earlier relationship later fields)
        refine .node ?_ ?_ ?_
        · intro relationship member
          obtain ⟨earlier, later, split⟩ := List.append_of_mem member
          obtain ⟨keys, resolved⟩ :=
            Relationship.addsBlock_iff.mp (own earlier relationship later split)
          obtain ⟨keyId, keyValue, -⟩ := Relationship.resolve_eq_ok_iff.mp resolved
          simp [keyId, keyValue]
        · refine List.pairwise_iff_forall_sublist.mpr fun {sibling relationship} inOrder => ?_
          obtain ⟨front, back, rfl, inFront, inBack⟩ := List.cons_sublist_iff.mp inOrder
          obtain ⟨before, between, rfl⟩ := List.append_of_mem inFront
          obtain ⟨others, later, rfl⟩ := List.append_of_mem (List.singleton_sublist.mp inBack)
          have taken := own before sibling (between ++ (others ++ relationship :: later)) (by simp)
          have adds := own (before ++ sibling :: (between ++ others)) relationship later (by simp)
          exact Relationship.leavesFree_of_addsBlock taken adds
        · intro relationship member
          obtain ⟨earlier, later, rfl⟩ := List.append_of_mem member
          exact targets relationship member fun visit reached =>
            all (visit.below earlier.length)
              (.within (own earlier relationship later rfl) reached later fields)

/-- **A selector has no diagnostics exactly when it is clean.** -/
theorem Selector.diagnostics_eq_nil_iff (selector : Selector) :
    selector.diagnostics = [] ↔ selector.Clean := by
  rw [selector.diagnostics_eq_flatMap_report, List.flatMap_eq_nil_iff,
    selector.clean_iff_addsBlock]
  simp only [Visit.report_eq_nil_iff, selector.mem_visits_iff]

instance (selector : Selector) : Decidable selector.Clean :=
  decidable_of_iff _ selector.diagnostics_eq_nil_iff

-- The field of the second relationship is the identifier of the first.
example : ¬Selector.Clean ⟨[.between .associative "id" "author" .empty,
    .between .childEntity "key" "id" .empty], ["title"]⟩ := by
  decide

end GraphSelect
