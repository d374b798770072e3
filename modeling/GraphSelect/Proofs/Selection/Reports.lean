import GraphSelect.Proofs.Selection.Pass
import GraphSelect.Proofs.Selection.Reach
import Mathlib.Data.List.Nodup

/-!
# Exact reports

A reached relationship is reported for each key that it lacks, the identifier first,
or for a field that an earlier sibling with a block takes (`Visit.report`). Nothing
else is reported. The diagnostics of a selector are the reports of its reached
relationships, one after the other (`Selector.diagnostics_eq_flatMap_report`), so a
reached relationship has a block exactly when no diagnostic has its path
(`compileReporting_exact`).
-/

set_option autoImplicit false

namespace GraphSelect

open Selection

/-! ## The report of a place -/

/-- The message of a used field quotes it, and there is no hint. -/
theorem Diagnostic.withDetail_duplicateField (path field : String) :
    (Diagnostic.of .duplicateField path).withDetail field =
      ⟨.duplicateField, path,
        "relationship skipped: `" ++ field ++ "` is already selected at this level", []⟩ := rfl

/-- An omission is never silent. -/
theorem Omission.diagnostics_ne_nil (omission : Omission) : omission.diagnostics ≠ [] := by
  obtain ⟨path, missing | field⟩ := omission
  · cases missing <;> simp [diagnostics, MissingKeys.kinds]
  · simp [diagnostics]

namespace Visit

/-- Why the relationship at the place is left out, if it is. -/
def cause? (visit : Visit) : Option OmissionCause :=
  match visit.relationship.resolve (Relationship.usedAfterAll [] visit.earlier) with
  | .error cause => some cause
  | .ok _ => none

/-- The omission of the relationship at the place, if it is left out, in a tree that
stands at the end of the path. -/
def omission? (path : SelectorPath) (visit : Visit) : Option Omission :=
  visit.cause?.map fun cause => ⟨path ++ visit.path, cause⟩

/-- The diagnostics that the relationship at the place calls for. -/
def report (visit : Visit) : Diagnostics :=
  match visit.relationship.keyId, visit.relationship.keyValue with
  | some _, some value =>
    if Relationship.Takes visit.earlier value then
      [⟨.duplicateField, visit.path.text,
        "relationship skipped: `" ++ value ++ "` is already selected at this level", []⟩]
    else []
  | keyId, keyValue =>
    (if keyId = none then [.of .missingKeyId visit.path.text] else []) ++
      if keyValue = none then [.of .missingKeyValue visit.path.text] else []

theorem cause?_eq_none_iff {visit : Visit} :
    visit.cause? = none ↔ visit.relationship.AddsBlock visit.earlier := by
  rw [Relationship.addsBlock_iff, cause?]
  split
  · next cause omitted => simp [omitted]
  · next keys resolved => simp [resolved]

/-- The diagnostics of the omission of a place are its report. -/
theorem report_eq (visit : Visit) :
    visit.report = (visit.omission? []).toList.flatMap Omission.diagnostics := by
  obtain ⟨path, earlier, kind, keyId, keyValue, selector⟩ := visit
  cases keyId with
  | none =>
      cases keyValue <;>
        simp [report, omission?, cause?, Relationship.resolve, Relationship.requireKeys,
          Omission.diagnostics, MissingKeys.kinds]
  | some id =>
      cases keyValue with
      | none =>
          simp [report, omission?, cause?, Relationship.resolve, Relationship.requireKeys,
            Omission.diagnostics, MissingKeys.kinds]
      | some value =>
          by_cases taken : Relationship.Takes earlier value
          · have used := Relationship.mem_usedAfterAll_iff.mpr taken
            simp [report, omission?, cause?, Relationship.resolve, Relationship.requireKeys,
              Omission.diagnostics, Diagnostic.withDetail_duplicateField, taken, used]
          · have free : value ∉ Relationship.usedAfterAll [] earlier :=
              fun member => taken (Relationship.mem_usedAfterAll_iff.mp member)
            simp [report, omission?, cause?, Relationship.resolve, Relationship.requireKeys,
              taken, free]

/-- **Nothing is reported of a place exactly when its relationship adds a block.** -/
theorem report_eq_nil_iff {visit : Visit} :
    visit.report = [] ↔ visit.relationship.AddsBlock visit.earlier := by
  rw [report_eq, ← cause?_eq_none_iff, omission?]
  cases visit.cause? with
  | none => simp
  | some cause => simp [Omission.diagnostics_ne_nil]

/-- Everything in the report of a place has its path. -/
theorem path_of_mem_report {visit : Visit} {diagnostic : Diagnostic}
    (member : diagnostic ∈ visit.report) : diagnostic.path = visit.path.text := by
  unfold report at member
  split at member
  · split at member
    · rw [List.mem_singleton.mp member]
    · cases member
  · rcases List.mem_append.mp member with identifier | field
    · split at identifier
      · rw [List.mem_singleton.mp identifier]
        rfl
      · cases identifier
    · split at field
      · rw [List.mem_singleton.mp field]
        rfl
      · cases field

end Visit

/-! ## The omissions of a selector -/

/-- What is left out on account of a relationship is its own omission, or those of the
places below it. -/
theorem Relationship.omissionsAt_eq {relationship : Relationship}
    (target : ∀ path, relationship.selector.omissionsFrom path =
      relationship.selector.visits.filterMap (Visit.omission? path))
    (path : SelectorPath) (earlier : List Relationship) :
    relationship.omissionsAt (path ++ [earlier.length]) (usedAfterAll [] earlier) =
      (Visit.omission? path ⟨[earlier.length], earlier, relationship⟩).toList ++
        (relationship.visitsBelow earlier).filterMap (Visit.omission? path) := by
  cases result : relationship.resolve (usedAfterAll [] earlier) with
  | error cause =>
      have none : ¬relationship.AddsBlock earlier := by
        rw [addsBlock_iff, result]
        simp
      simp [omissionsAt, visitsBelow, none, Visit.omission?, Visit.cause?, result]
  | ok keys =>
      have adds : relationship.AddsBlock earlier := addsBlock_iff.mpr ⟨keys, result⟩
      have deeper : ∀ visit : Visit, Visit.omission? path (visit.below earlier.length) =
          Visit.omission? (path ++ [earlier.length]) visit := by
        intro visit
        simp only [Visit.omission?, Visit.below, Visit.cause?, List.append_assoc,
          List.singleton_append]
      rw [omissionsAt, result, visitsBelow, if_pos adds, List.filterMap_map]
      simp only [Visit.omission?, Visit.cause?, result, Option.map_none, Option.toList_none,
        List.nil_append]
      rw [target]
      exact List.filterMap_congr fun visit _ => (deeper visit).symm

theorem Relationship.omissions_eq {relationships : List Relationship}
    (targets : ∀ relationship ∈ relationships, ∀ path,
      relationship.selector.omissionsFrom path =
        relationship.selector.visits.filterMap (Visit.omission? path))
    (path : SelectorPath) : ∀ earlier,
    Relationship.omissions path earlier.length (usedAfterAll [] earlier) relationships =
      (Relationship.visits earlier relationships).filterMap (Visit.omission? path) := by
  induction relationships with
  | nil =>
      intro earlier
      rw [Relationship.omissions, Relationship.visits, List.filterMap_nil]
  | cons first rest ih =>
      intro earlier
      have one := omissionsAt_eq (targets first List.mem_cons_self) path earlier
      have others := ih (fun relationship member =>
        targets relationship (List.mem_cons_of_mem first member)) (earlier ++ [first])
      rw [List.length_append, List.length_singleton, usedAfterAll_append, usedAfterAll_cons,
        usedAfterAll_nil] at others
      rw [omissions_cons, one, others, visits_cons]
      simp only [List.filterMap_eq_flatMap_toList, List.flatMap_cons, List.flatMap_append,
        List.append_assoc]

/-- **The omissions of a selector are those of its reached relationships, in order.** -/
theorem Selector.omissionsFrom_eq (selector : Selector) : ∀ path,
    selector.omissionsFrom path = selector.visits.filterMap (Visit.omission? path) := by
  induction selector using Selector.induction with
  | node relationships fields targets =>
      intro path
      rw [Selector.omissionsFrom, Selector.visits]
      exact Relationship.omissions_eq targets path []

/-- **The diagnostics of a selector are the reports of its reached relationships.** -/
theorem Selector.diagnostics_eq_flatMap_report (selector : Selector) :
    selector.diagnostics = selector.visits.flatMap Visit.report := by
  rw [diagnostics, omissions, omissionsFrom_eq, List.filterMap_eq_flatMap_toList,
    List.flatMap_assoc]
  exact List.flatMap_congr fun visit _ => visit.report_eq.symm

/-! ## Exactness -/

/-- No two reached relationships share a path. -/
theorem Selector.nodup_map_path_visits (selector : Selector) :
    (selector.visits.map Visit.path).Nodup := by
  rw [List.Nodup, List.pairwise_map]
  refine selector.pairwise_visits.imp fun before equal => ?_
  rw [equal] at before
  exact List.lt_irrefl _ before

/-- Two reached relationships with the same path are the same one. -/
theorem Selector.eq_of_path_eq {selector : Selector} {first second : Visit}
    (listed : first ∈ selector.visits) (listed' : second ∈ selector.visits)
    (same : first.path = second.path) : first = second :=
  List.inj_on_of_nodup_map selector.nodup_map_path_visits listed listed' same

/-- A place has a diagnostic with its path exactly when something is reported of it. -/
theorem Selector.mem_report_iff {selector : Selector} {visit : Visit}
    (listed : visit ∈ selector.visits) {diagnostic : Diagnostic} :
    diagnostic ∈ visit.report ↔
      diagnostic ∈ selector.diagnostics ∧ diagnostic.path = visit.path.text := by
  rw [selector.diagnostics_eq_flatMap_report, List.mem_flatMap]
  constructor
  · intro member
    exact ⟨⟨visit, listed, member⟩, Visit.path_of_mem_report member⟩
  · rintro ⟨⟨other, listed', member⟩, path⟩
    have texts : other.path.text = visit.path.text :=
      (Visit.path_of_mem_report member).symm.trans path
    obtain rfl := eq_of_path_eq listed' listed (SelectorPath.text_injective texts)
    exact member

/-- The diagnostics of a compilation with some names included are exact. -/
structure Selector.Explains (selector : Selector) (included : List String)
    (visits : List Visit) (diagnostics : Diagnostics) : Prop where
  /-- The places are those of the reached relationships, -/
  reached : ∀ visit, visit ∈ visits ↔ selector.Reaches visit
  /-- each once, and in the order of the document. -/
  ordered : visits.Pairwise fun first second => first.path < second.path
  /-- Every diagnostic is in the report of a place. -/
  reports : diagnostics = visits.flatMap Visit.report
  /-- The path of a place leads to its relationship, -/
  leads : ∀ visit ∈ visits, selector.follow? visit.path = some visit.relationship
  /-- which stands on a level of the selection set behind its earlier siblings. -/
  stands : ∀ visit ∈ visits, ∃ level, IsLevel (selector.selections included) level ∧
    Relationship.selections [] (visit.earlier ++ [visit.relationship]) <+: level
  /-- It has a block there exactly when no diagnostic has its path. -/
  addsBlock_iff : ∀ visit ∈ visits, visit.relationship.AddsBlock visit.earlier ↔
    ∀ diagnostic ∈ diagnostics, diagnostic.path ≠ visit.path.text

/-- **The diagnostics of a compilation are exact.** They are the same for all options,
and no two relationships share the path that stands in them. The selection set that they
explain is the one that the compilation lays out. -/
theorem compileReporting_exact (options : CompileOptions) (selector : Selector) :
    selector.Explains options.included selector.visits
        (selector.compileReporting options).2.diagnostics ∧
      (selector.compileReporting options).2.diagnostics = selector.diagnostics ∧
      selector.LaysOut options (selector.selections options.included) ∧
      Function.Injective SelectorPath.text := by
  have reported := selector.diagnostics_compileReporting options
  refine ⟨?_, reported, selector.laysOut_selections options, SelectorPath.text_injective⟩
  rw [reported]
  exact
    { reached := selector.mem_visits_iff
      ordered := selector.pairwise_visits
      reports := selector.diagnostics_eq_flatMap_report
      leads := fun visit listed => ((selector.mem_visits_iff visit).mp listed).follow?_eq
      stands := fun visit listed =>
        ((selector.mem_visits_iff visit).mp listed).exists_isLevel options.included
      addsBlock_iff := by
        intro visit listed
        rw [← Visit.report_eq_nil_iff, List.eq_nil_iff_forall_not_mem]
        simp only [Selector.mem_report_iff listed, not_and] }

end GraphSelect
