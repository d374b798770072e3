import GraphSelect.Diagnostic.Selector
import GraphSelect.Proofs.Selection.Lines
import GraphSelect.Proofs.Selection.Reports
import GraphSelect.Proofs.Text.Literals
import Mathlib.Data.Finset.Lattice.Fold
import Mathlib.Data.List.Infix
import Mathlib.Order.Lattice.Nat

/-!
# Depth and nesting

The depth of a selector is the longest way down through its relationships. The nesting of
a text is the greatest number of braces that are open at once (`Text.nesting`). Between
the two stands the height of a selection set, the greatest number of blocks around one of
its places (`Selection.heightOfAll`).

The text of a selection set nests as deep as the set is high (`Selection.nests_textOfAll`).
The set is never higher than its selector is deep, since every block comes from a
relationship, and it is as high when no relationship is left out, since then every way
down is there (`compile_nesting_le_depth`).
-/

set_option autoImplicit false

namespace GraphSelect

namespace Text

/-! ## Braces that are open at once -/

/-- The greatest number of braces that are open at once: the greatest excess of opening
braces over closing ones among the prefixes. -/
def nesting (chars : List Char) : Nat :=
  chars.inits.toFinset.sup fun before => before.count '{' - before.count '}'

theorem nesting_le_iff {chars : List Char} {bound : Nat} :
    nesting chars ≤ bound ↔
      ∀ before, before <+: chars → before.count '{' ≤ bound + before.count '}' := by
  simp only [nesting, Finset.sup_le_iff, List.mem_toFinset, List.mem_inits,
    Nat.sub_le_iff_le_add]

/-- The text is balanced, and at most `height` of its braces are open at once, at some
place as many. -/
structure Nests (height : Nat) (chars : List Char) : Prop where
  balanced : Balanced chars
  nesting_eq : nesting chars = height

namespace Nests

variable {height next : Nat} {first second : List Char}

theorem of_braceFree (free : BraceFree first) : Nests 0 first where
  balanced := by
    rw [Balanced, ← balancedWithin_bracesOf_iff, free.bracesOf_eq_nil]
    exact .nil 0
  nesting_eq := by
    rw [← Nat.le_zero, nesting_le_iff]
    intro before isPrefix
    have none : before.count '{' = 0 :=
      List.count_eq_zero_of_not_mem fun member => (free _ (isPrefix.subset member)).1 rfl
    omega

/-- What stands behind balanced text starts at depth zero again. -/
theorem append (front : Nests height first) (back : Nests next second) :
    Nests (max height next) (first ++ second) where
  balanced := front.balanced.append back.balanced
  nesting_eq := by
    have totals := front.balanced.totals
    refine eq_of_forall_ge_iff fun bound => ?_
    rw [max_le_iff, ← front.nesting_eq, ← back.nesting_eq, nesting_le_iff, nesting_le_iff,
      nesting_le_iff]
    constructor
    · intro all
      constructor
      · intro before isPrefix
        exact all before (isPrefix.trans (List.prefix_append first second))
      · intro before isPrefix
        have whole := all (first ++ before) ((List.prefix_append_right_inj first).mpr isPrefix)
        rw [List.count_append, List.count_append] at whole
        omega
    · rintro ⟨inFirst, inSecond⟩ before isPrefix
      rcases prefix_append_cases isPrefix with short | ⟨more, short, rfl⟩
      · exact inFirst before short
      · have behind := inSecond more short
        rw [List.count_append, List.count_append]
        omega

theorem count_opening_cons (rest : List Char) :
    ('{' :: rest).count '{' = rest.count '{' + 1 ∧ ('{' :: rest).count '}' = rest.count '}' :=
  ⟨List.count_cons_self, List.count_cons_of_ne (by decide)⟩

/-- A pair of braces is open around everything inside it. -/
theorem braces (within : Nests height first) : Nests (height + 1) ('{' :: (first ++ ['}'])) where
  balanced := (within.balanced.within 1).braces
  nesting_eq := by
    refine eq_of_forall_ge_iff fun bound => ?_
    rw [nesting_le_iff, ← within.nesting_eq]
    constructor
    · intro all
      have inside : ∀ before, before <+: first →
          before.count '{' + 1 ≤ bound + before.count '}' := by
        intro before isPrefix
        have enclosed := all ('{' :: before)
          (List.cons_prefix_cons.mpr ⟨rfl, isPrefix.trans (List.prefix_append first _)⟩)
        rwa [(count_opening_cons before).1, (count_opening_cons before).2] at enclosed
      have atStart : 1 ≤ bound := inside [] List.nil_prefix
      have bounded : nesting first ≤ bound - 1 := by
        rw [nesting_le_iff]
        intro before isPrefix
        have := inside before isPrefix
        omega
      omega
    · intro bounded before isPrefix
      rcases prefix_enclosed_cases isPrefix with rfl | rfl | ⟨front, short, rfl⟩
      · exact Nat.zero_le _
      · rw [(within.balanced.within 1).braces.totals]
        exact Nat.le_add_left _ bound
      · have inside := nesting_le_iff.mp (Nat.le_sub_of_add_le bounded) front short
        rw [(count_opening_cons front).1, (count_opening_cons front).2]
        omega

end Nests

end Text

open Selection Text

/-! ## The height of a selection set -/

namespace Selection

mutual

/-- The greatest number of blocks around a place of an entry, the entry itself among
them. -/
def height : Selection → Nat
  | leaf _ => 0
  | block _ body => heightOfAll body + 1

/-- The greatest number of blocks around a place of a selection set. -/
def heightOfAll : List Selection → Nat
  | [] => 0
  | first :: rest => max (height first) (heightOfAll rest)

end

theorem heightOfAll_append (first second : List Selection) :
    heightOfAll (first ++ second) = max (heightOfAll first) (heightOfAll second) := by
  induction first with
  | nil => simp [heightOfAll]
  | cons entry rest ih => simp only [List.cons_append, heightOfAll, ih, max_assoc]

theorem heightOfAll_leaves (used requested : List String) :
    heightOfAll (leaves used requested) = 0 := by
  induction requested generalizing used with
  | nil => rfl
  | cons name rest ih =>
      rw [leaves]
      split
      · exact ih used
      · simp [heightOfAll, height, ih]

section Layout

variable {unit : String}

theorem braceFree_margin (bare : BraceFree unit.toList) (depth : Nat) :
    BraceFree (margin unit depth).toList := by
  rw [toList_margin]
  intro c member
  exact bare c (mem_of_mem_indent member)

theorem braceFree_closingEnd (unit : String) : BraceFree (closingEnd unit).toList := by
  unfold closingEnd
  split <;> decide

mutual

/-- The text of an entry nests as deep as the entry is high. -/
theorem nests_text (bare : BraceFree unit.toList) : ∀ (entry : Selection) (depth : Nat),
    (∀ name ∈ names entry, BraceFree name.toList) →
      Nests (height entry) (text unit depth entry).toList
  | leaf name, depth, named => by
      have margins := Nests.of_braceFree (braceFree_margin bare depth)
      have here := Nests.of_braceFree (named name (by simp [names]))
      have newline : Nests 0 ['\n'] := .of_braceFree (by decide)
      simp only [text, String.toList_append, height]
      exact (margins.append here).append newline
  | block name body, depth, named => by
      have margins := Nests.of_braceFree (braceFree_margin bare depth)
      have here := Nests.of_braceFree (named name (by simp [names]))
      have space : Nests 0 [' '] := .of_braceFree (by decide)
      have newline : Nests 0 ['\n'] := .of_braceFree (by decide)
      have stop := Nests.of_braceFree (braceFree_closingEnd unit)
      have within := nests_textOfAll bare body (depth + 1) fun inner member =>
        named inner (by simp [names, member])
      have group := (newline.append (within.append margins)).braces
      have line := (((margins.append here).append space).append group).append stop
      have head : " \x7b\n".toList = [' ', '{', '\n'] := rfl
      have foot : "\x7d".toList = ['}'] := rfl
      simpa [text, height, head, foot] using line

theorem nests_textOfAll (bare : BraceFree unit.toList) :
    ∀ (entries : List Selection) (depth : Nat),
      (∀ name ∈ namesOfAll entries, BraceFree name.toList) →
        Nests (heightOfAll entries) (textOfAll unit depth entries).toList
  | [], _, _ => .of_braceFree fun _ member => nomatch member
  | first :: rest, depth, named => by
      have front := nests_text bare first depth fun name member =>
        named name (by simp [namesOfAll, member])
      have back := nests_textOfAll bare rest depth fun name member =>
        named name (by simp [namesOfAll, member])
      simp only [textOfAll, String.toList_append, heightOfAll]
      exact front.append back

end

end Layout

end Selection

/-! ## Height and depth -/

namespace Relationship

theorem greatestDepth_cons (first : Relationship) (rest : List Relationship) :
    greatestDepth (first :: rest) = max (1 + first.selector.depth) (greatestDepth rest) := by
  obtain ⟨kind, keyId, keyValue, target⟩ := first
  rw [greatestDepth]

theorem heightOfAll_entries_of_ok {used : List String} {relationship : Relationship}
    {keys : Keys} (resolved : relationship.resolve used = .ok keys) :
    heightOfAll (relationship.entries used) =
      heightOfAll (relationship.selector.selections (relationship.kind.passedDown keys)) + 1 := by
  rw [entries_of_ok resolved, heightOfAll_append]
  cases relationship.kind.keyLine? keys used <;> simp [heightOfAll, height]

/-- A relationship adds at most its block. -/
theorem heightOfAll_entries_le {used : List String} {relationship : Relationship}
    (target : ∀ included, heightOfAll (relationship.selector.selections included) ≤
      relationship.selector.depth) :
    heightOfAll (relationship.entries used) ≤ 1 + relationship.selector.depth := by
  cases result : relationship.resolve used with
  | error cause => simp [entries_of_error result, heightOfAll]
  | ok keys =>
      rw [heightOfAll_entries_of_ok result]
      have := target (relationship.kind.passedDown keys)
      omega

theorem heightOfAll_selections_le {relationships : List Relationship}
    (targets : ∀ relationship ∈ relationships, ∀ included,
      heightOfAll (relationship.selector.selections included) ≤ relationship.selector.depth)
    (used : List String) :
    heightOfAll (Relationship.selections used relationships) ≤ greatestDepth relationships := by
  induction relationships generalizing used with
  | nil => simp [heightOfAll]
  | cons first rest ih =>
      rw [selections_cons, heightOfAll_append, greatestDepth_cons]
      refine max_le_max (heightOfAll_entries_le (targets first List.mem_cons_self)) (ih ?_ _)
      exact fun relationship member => targets relationship (List.mem_cons_of_mem first member)

/-- When nothing is left out, every relationship adds its block, and the block is as high
as the target is deep. -/
theorem heightOfAll_selections_eq {relationships : List Relationship}
    (targets : ∀ relationship ∈ relationships, ∀ included path,
      relationship.selector.omissionsFrom path = [] →
        heightOfAll (relationship.selector.selections included) = relationship.selector.depth)
    {path : SelectorPath} {index : Nat} {used : List String}
    (complete : omissions path index used relationships = []) :
    heightOfAll (Relationship.selections used relationships) = greatestDepth relationships := by
  induction relationships generalizing index used with
  | nil => simp [heightOfAll, greatestDepth]
  | cons first rest ih =>
      rw [omissions_cons, List.append_eq_nil_iff] at complete
      obtain ⟨here, others⟩ := complete
      rw [selections_cons, heightOfAll_append, greatestDepth_cons,
        ih (fun relationship member => targets relationship (List.mem_cons_of_mem first member))
          others]
      cases result : first.resolve used with
      | error cause =>
          simp only [omissionsAt, result] at here
          cases here
      | ok keys =>
          simp only [omissionsAt, result] at here
          rw [heightOfAll_entries_of_ok result, targets first List.mem_cons_self _ _ here,
            Nat.add_comm]

end Relationship

namespace Selector

/-- **A selection set is at most as high as its selector is deep.** -/
theorem heightOfAll_selections_le_depth (selector : Selector) :
    ∀ included, heightOfAll (selector.selections included) ≤ selector.depth := by
  induction selector using Selector.induction with
  | node relationships fields targets =>
      intro included
      rw [selections, heightOfAll_append, heightOfAll_leaves, Nat.max_zero, depth]
      exact Relationship.heightOfAll_selections_le targets []

/-- **It is as high when nothing is left out.** -/
theorem heightOfAll_selections_eq_depth (selector : Selector) :
    ∀ included path, selector.omissionsFrom path = [] →
      heightOfAll (selector.selections included) = selector.depth := by
  induction selector using Selector.induction with
  | node relationships fields targets =>
      intro included path complete
      rw [omissionsFrom] at complete
      rw [selections, heightOfAll_append, heightOfAll_leaves, Nat.max_zero, depth]
      exact Relationship.heightOfAll_selections_eq targets complete

theorem omissions_eq_nil_of_diagnostics {selector : Selector}
    (silent : selector.diagnostics = []) : selector.omissions = [] := by
  rw [List.eq_nil_iff_forall_not_mem]
  intro omission member
  exact omission.diagnostics_ne_nil (List.flatMap_eq_nil_iff.mp silent omission member)

end Selector

/-! ## Nesting and depth -/

/-- **The depth of a selector bounds the nesting of its text**, when its names, the
included names and the indent unit have no braces. When nothing is reported the text nests
exactly so deep. -/
theorem compile_nesting_le_depth (selector : Selector) (options : CompileOptions)
    (bare : BraceFree options.unit.toList)
    (named : ∀ name ∈ options.included ++ selector.names, BraceFree name.toList) :
    nesting (selector.compile options).toList ≤ selector.depth ∧
      (selector.diagnostics = [] →
        nesting (selector.compile options).toList = selector.depth) := by
  have nests : Nests (heightOfAll (selector.selections options.included))
      (selector.compile options).toList :=
    nests_textOfAll bare _ _ fun name member =>
      named name (List.mem_append.mpr (selector.mem_names_of_selections _ name member))
  rw [nests.nesting_eq]
  refine ⟨selector.heightOfAll_selections_le_depth _, fun silent => ?_⟩
  exact selector.heightOfAll_selections_eq_depth _ _
    (Selector.omissions_eq_nil_of_diagnostics silent)

/-- A selector with relationships on two levels, all of which are selected. -/
def threadSelector : Selector :=
  ⟨[.between .associative "authorId" "author" ⟨[], ["name"]⟩,
      .between .childrenEntities "postId" "comments"
        ⟨[.between .childEntity "authorId" "author" .empty], ["body"]⟩],
    ["title"]⟩

theorem compile_nesting_le_depth_thread :
    BraceFree "\t".toList ∧
      (∀ name ∈ ["version"] ++ threadSelector.names, BraceFree name.toList) ∧
      threadSelector.diagnostics = [] ∧ threadSelector.depth = 2 ∧
      nesting (threadSelector.compile ⟨["version"], "\t", 1⟩).toList ≤ threadSelector.depth ∧
      nesting (threadSelector.compile ⟨["version"], "\t", 1⟩).toList = threadSelector.depth := by
  have bare : BraceFree "\t".toList := by decide
  have named : ∀ name ∈ ["version"] ++ threadSelector.names, BraceFree name.toList := by decide
  have silent : threadSelector.diagnostics = [] := by decide
  obtain ⟨bounded, reached⟩ :=
    compile_nesting_le_depth threadSelector ⟨["version"], "\t", 1⟩ bare named
  exact ⟨bare, named, silent, by decide, bounded, reached silent⟩

-- The only way down that is two relationships long starts with one that is left out.
example : nesting (Selector.compile {} ⟨[.between .childEntity "id" "author" .empty,
    .between .childEntity "id" "author" ⟨[.between .childEntity "id" "avatar" .empty], []⟩],
      []⟩).toList = 1 := by
  decide

end GraphSelect
