import GraphSelect.Operation.Assembly
import GraphSelect.Proofs.Selection.Reports

/-!
# Pruning

A selector is pruned by removing the relationships at the paths of its diagnostics.
What was left out has no trace on its level, so the pruned selector has the same
selection sets, and nothing more is left out of it (`Selector.repairs_prune`). The
strict policy accepts it and gives the text that the lenient policy gives for the
selector as it was (`prune_undisturbed`).
-/

set_option autoImplicit false

namespace GraphSelect

/-! ## Removing relationships -/

mutual

/-- The selector without the relationships at the paths that are dropped. -/
def Selector.remove (drop : SelectorPath → Bool) : Selector → Selector
  | ⟨relationships, fields⟩ => ⟨Relationship.removeFrom drop 0 relationships, fields⟩

/-- The relationships that stay, when `index` is the position of the first. -/
def Relationship.removeFrom (drop : SelectorPath → Bool) (index : Nat) :
    List Relationship → List Relationship
  | [] => []
  | ⟨kind, keyId, keyValue, target⟩ :: rest =>
    if drop [index] then Relationship.removeFrom drop (index + 1) rest
    else
      ⟨kind, keyId, keyValue, target.remove fun path => drop (index :: path)⟩ ::
        Relationship.removeFrom drop (index + 1) rest

end

/-- The selector without the relationships at the paths of its diagnostics. -/
def Selector.prune (selector : Selector) : Selector :=
  selector.remove fun path => path.text ∈ selector.diagnostics.map Diagnostic.path

theorem Relationship.removeFrom_cons (drop : SelectorPath → Bool) (index : Nat)
    (relationship : Relationship) (rest : List Relationship) :
    removeFrom drop index (relationship :: rest) =
      if drop [index] then removeFrom drop (index + 1) rest
      else
        { relationship with
            selector := relationship.selector.remove fun path => drop (index :: path) } ::
          removeFrom drop (index + 1) rest := by
  obtain ⟨kind, keyId, keyValue, target⟩ := relationship
  rw [removeFrom]

/-! ## Repaired selectors -/

/-- A repaired selector has the same selection sets, and nothing is left out of it. -/
structure Selector.Repairs (repaired selector : Selector) : Prop where
  selections_eq : ∀ included, repaired.selections included = selector.selections included
  omissions_eq : ∀ path, repaired.omissionsFrom path = []

namespace Relationship

/-- Repaired relationships of a level, when the names `used` are taken: they add and
use the same, and nothing is left out of them. -/
structure RepairAll (used : List String) (repaired relationships : List Relationship) :
    Prop where
  selections_eq :
    Relationship.selections used repaired = Relationship.selections used relationships
  used_eq : usedAfterAll used repaired = usedAfterAll used relationships
  omissions_eq : ∀ path index, omissions path index used repaired = []

namespace RepairAll

variable {used : List String} {first : Relationship} {repaired rest : List Relationship}

theorem nil (used : List String) : RepairAll used [] [] :=
  ⟨rfl, rfl, fun _ _ => by rw [omissions]⟩

/-- A relationship that is left out can be missing. -/
theorem skip {cause : OmissionCause} (omitted : first.resolve used = .error cause)
    (others : RepairAll used repaired rest) : RepairAll used repaired (first :: rest) := by
  constructor
  · rw [selections_cons, entries_of_error omitted, usedAfter_of_error omitted, List.nil_append]
    exact others.selections_eq
  · rw [usedAfterAll_cons, usedAfter_of_error omitted]
    exact others.used_eq
  · exact others.omissions_eq

/-- A relationship that adds a block can have a repaired target. -/
theorem keep {keys : Keys} {target : Selector} (resolved : first.resolve used = .ok keys)
    (repairs : target.Repairs first.selector)
    (others : RepairAll (first.usedAfter used) repaired rest) :
    RepairAll used ({ first with selector := target } :: repaired) (first :: rest) := by
  have resolved' : resolve used { first with selector := target } = .ok keys := resolved
  have usedAfter_eq : usedAfter used { first with selector := target } = first.usedAfter used :=
    rfl
  constructor
  · rw [selections_cons, selections_cons, entries_of_ok resolved, entries_of_ok resolved',
      usedAfter_eq, others.selections_eq, repairs.selections_eq]
  · rw [usedAfterAll_cons, usedAfterAll_cons, usedAfter_eq, others.used_eq]
  · intro path index
    rw [omissions_cons, omissionsAt, resolved', usedAfter_eq, others.omissions_eq,
      List.append_nil]
    exact repairs.omissions_eq _

end RepairAll

end Relationship

/-! ## Removing what is left out -/

/-- The paths that are dropped are, among those of the reached relationships, the paths
of the ones without a block. -/
def Selector.OmittedAt (drop : SelectorPath → Bool) (selector : Selector) : Prop :=
  ∀ visit, selector.Reaches visit →
    (drop visit.path = true ↔ ¬visit.relationship.AddsBlock visit.earlier)

theorem Relationship.repairAll_removeFrom {drop : SelectorPath → Bool}
    {relationships : List Relationship}
    (targets : ∀ relationship ∈ relationships, ∀ drop,
      relationship.selector.OmittedAt drop →
        (relationship.selector.remove drop).Repairs relationship.selector)
    (earlier : List Relationship)
    (omitted : ∀ visit ∈ Relationship.visits earlier relationships,
      (drop visit.path = true ↔ ¬visit.relationship.AddsBlock visit.earlier)) :
    RepairAll (usedAfterAll [] earlier) (removeFrom drop earlier.length relationships)
      relationships := by
  induction relationships generalizing earlier with
  | nil =>
      rw [removeFrom]
      exact .nil _
  | cons first rest ih =>
      rw [visits_cons] at omitted
      have own : drop [earlier.length] = true ↔ ¬first.AddsBlock earlier :=
        omitted _ List.mem_cons_self
      have others := ih (fun relationship member =>
        targets relationship (List.mem_cons_of_mem first member)) (earlier ++ [first])
          fun visit member =>
            omitted visit (List.mem_cons_of_mem _ (List.mem_append_right _ member))
      rw [List.length_append, List.length_singleton, usedAfterAll_append, usedAfterAll_cons,
        usedAfterAll_nil] at others
      rw [removeFrom_cons]
      cases result : first.resolve (usedAfterAll [] earlier) with
      | error cause =>
          have none : ¬first.AddsBlock earlier := by
            rw [addsBlock_iff, result]
            simp
          rw [if_pos (own.mpr none)]
          rw [usedAfter_of_error result] at others
          exact others.skip result
      | ok keys =>
          have adds : first.AddsBlock earlier := addsBlock_iff.mpr ⟨keys, result⟩
          rw [if_neg fun dropped => own.mp dropped adds]
          refine others.keep result (targets first List.mem_cons_self _ fun visit reached => ?_)
          refine omitted (visit.below earlier.length)
            (List.mem_cons_of_mem _ (List.mem_append_left _ (mem_visitsBelow_iff.mpr ?_)))
          exact ⟨adds, visit, (Selector.mem_visits_iff _ visit).mpr reached, rfl⟩

/-- **Removing the reached relationships without a block repairs the selector.** -/
theorem Selector.repairs_remove (selector : Selector) : ∀ drop,
    selector.OmittedAt drop → (selector.remove drop).Repairs selector := by
  induction selector using Selector.induction with
  | node relationships fields targets =>
      intro drop omitted
      have level : Relationship.RepairAll [] (Relationship.removeFrom drop 0 relationships)
          relationships := by
        refine Relationship.repairAll_removeFrom targets [] fun visit member => ?_
        refine omitted visit ((mem_visits_iff _ visit).mp ?_)
        rw [Selector.visits]
        exact member
      rw [Selector.remove]
      constructor
      · intro included
        rw [Selector.selections, Selector.selections, level.selections_eq, level.used_eq]
      · intro path
        rw [Selector.omissionsFrom]
        exact level.omissions_eq path 0

/-- A reached relationship adds no block exactly when its path is that of a
diagnostic. -/
theorem Selector.mem_paths_iff {selector : Selector} {visit : Visit}
    (reached : selector.Reaches visit) :
    visit.path.text ∈ selector.diagnostics.map Diagnostic.path ↔
      ¬visit.relationship.AddsBlock visit.earlier := by
  have listed := (selector.mem_visits_iff visit).mpr reached
  rw [← Visit.report_eq_nil_iff, List.mem_map, List.eq_nil_iff_forall_not_mem]
  simp only [mem_report_iff listed, not_forall, not_not]

/-- **Pruning repairs a selector.** -/
theorem Selector.repairs_prune (selector : Selector) : selector.prune.Repairs selector := by
  refine selector.repairs_remove _ fun visit reached => ?_
  rw [decide_eq_true_iff]
  exact mem_paths_iff reached

/-- **What is left out leaves no trace.** The pruned selector has the same text for all
options and no diagnostics, and the strict policy gives for it what the lenient policy
gives for the selector itself. -/
theorem prune_undisturbed (selector : Selector) :
    (∀ options : CompileOptions, selector.prune.compile options = selector.compile options) ∧
      (∀ options, (selector.prune.compileReporting options).2.diagnostics = []) ∧
      ∀ name parameters, ∃ text,
        (Request.named name parameters selector.prune).render .strict = .ok text ∧
          (Request.named name parameters selector).render .lenient = .ok text := by
  have repairs := selector.repairs_prune
  have texts : ∀ options : CompileOptions,
      selector.prune.compile options = selector.compile options := by
    intro options
    rw [Selector.compile, repairs.selections_eq, Selector.compile]
  have none : selector.prune.diagnostics = [] := by
    rw [Selector.diagnostics, Selector.omissions, repairs.omissions_eq, List.flatMap_nil]
  refine ⟨texts, ?_, ?_⟩
  · intro options
    rw [selector.prune.compileReporting_eq options]
    exact none
  · intro name parameters
    refine ⟨(Request.named name parameters selector).text, ?_, rfl⟩
    rw [Request.render, Policy.check_strict_eq_ok_iff]
    refine ⟨none, ?_⟩
    rw [Request.text, Request.text, texts]

end GraphSelect
