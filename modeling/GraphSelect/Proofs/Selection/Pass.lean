import GraphSelect.Command.Log
import GraphSelect.Diagnostic.Selector
import GraphSelect.Proofs.Selection.Outline
import GraphSelect.Selection.Layout

/-!
# Compiling in one pass

A selector can be compiled in a single walk that writes the text, keeps the set of
names used on the level, and reports what it leaves out as it goes. The pass writes
what the selection set of the selector lays out to, reports the diagnostics of the
selector, and logs its omissions, all in the same order
(`Selector.compileReporting_eq`). What it reports is the same for all options.
-/

set_option autoImplicit false

namespace GraphSelect

open Selection

/-! ## What a pass reports -/

/-- What a pass has reported so far. -/
structure Journal where
  diagnostics : Diagnostics := []
  log : List LogRecord := []
deriving DecidableEq, Repr

namespace Journal

/-- The journal with one more diagnostic. -/
def report (journal : Journal) (diagnostic : Diagnostic) : Journal :=
  { journal with diagnostics := journal.diagnostics ++ [diagnostic] }

/-- The journal with one more record, that of an omission. -/
def note (journal : Journal) (path : SelectorPath) (cause : OmissionCause) : Journal :=
  { journal with log := journal.log ++ [.omitted ⟨path, cause⟩] }

/-- The journal after a relationship that lacks a key. -/
def skip (journal : Journal) (path : SelectorPath) (relationship : Relationship)
    (missing : MissingKeys) : Journal :=
  let noted := journal.note path (.missingKeys missing)
  let identified :=
    if relationship.keyId = none then noted.report (.of .missingKeyId path.text) else noted
  if relationship.keyValue = none then identified.report (.of .missingKeyValue path.text)
  else identified

/-- The journal after a relationship whose field is used. -/
def duplicate (journal : Journal) (path : SelectorPath) (field : String) : Journal :=
  (journal.note path (.duplicateField field)).report
    ((Diagnostic.of .duplicateField path.text).withDetail field)

/-- The journal after some omissions. -/
def omitAll (journal : Journal) (omissions : List Omission) : Journal :=
  ⟨journal.diagnostics ++ omissions.flatMap Omission.diagnostics,
    journal.log ++ omissions.map .omitted⟩

@[simp] theorem omitAll_nil (journal : Journal) : journal.omitAll [] = journal := by
  simp [omitAll]

theorem omitAll_append (journal : Journal) (earlier later : List Omission) :
    journal.omitAll (earlier ++ later) = (journal.omitAll earlier).omitAll later := by
  simp [omitAll]

/-- One diagnostic is reported for each key that is missing, the identifier first. -/
theorem skip_eq {relationship : Relationship} {missing : MissingKeys}
    (lacking : relationship.requireKeys = .error missing) (journal : Journal)
    (path : SelectorPath) :
    journal.skip path relationship missing = journal.omitAll [⟨path, .missingKeys missing⟩] := by
  obtain ⟨kind, keyId, keyValue, target⟩ := relationship
  cases keyId <;> cases keyValue <;> cases lacking <;>
    simp [skip, note, report, omitAll, Omission.diagnostics, MissingKeys.kinds]

theorem duplicate_eq (journal : Journal) (path : SelectorPath) (field : String) :
    journal.duplicate path field = journal.omitAll [⟨path, .duplicateField field⟩] := by
  simp [duplicate, note, report, omitAll, Omission.diagnostics]

end Journal

/-! ## The pass -/

/-- A level while it is written: the names that it uses and its text so far. -/
structure LevelText where
  used : Finset String := ∅
  text : String := ""

namespace LevelText

/-- A line for a name, unless the name is used. -/
def addLine (unit : String) (depth : Nat) (level : LevelText) (name : String) : LevelText :=
  if name ∈ level.used then level
  else ⟨insert name level.used, level.text ++ (margin unit depth ++ name ++ "\n")⟩

/-- A block with the text of its body. -/
def addBlock (unit : String) (depth : Nat) (level : LevelText) (name body : String) :
    LevelText :=
  ⟨insert name level.used, level.text ++ (margin unit depth ++ name ++ " \x7b\n" ++ body ++
    margin unit depth ++ "\x7d" ++ closingEnd unit)⟩

end LevelText

mutual

/-- Writes the level of a selector. -/
def Selector.write (unit : String) (included : List String) (depth : Nat)
    (path : SelectorPath) : Selector → Journal → String × Journal
  | ⟨relationships, fields⟩, journal =>
    let (level, journal) := Relationship.write unit depth path 0 {} relationships journal
    (((included ++ fields).foldl (LevelText.addLine unit depth) level).text, journal)

/-- Goes on with a level: `index` is the position of the first of the relationships
that are still to be written. -/
def Relationship.write (unit : String) (depth : Nat) (path : SelectorPath) (index : Nat)
    (level : LevelText) : List Relationship → Journal → LevelText × Journal
  | [], journal => (level, journal)
  | relationship@⟨kind, _, _, target⟩ :: rest, journal =>
    match relationship.requireKeys with
    | .error missing =>
      Relationship.write unit depth path (index + 1) level rest
        (journal.skip (path ++ [index]) relationship missing)
    | .ok keys =>
      if keys.value ∈ level.used then
        Relationship.write unit depth path (index + 1) level rest
          (journal.duplicate (path ++ [index]) keys.value)
      else
        let opened := if kind.isContainment then level else level.addLine unit depth keys.id
        let (body, journal) :=
          target.write unit (kind.passedDown keys) (depth + 1) (path ++ [index]) journal
        Relationship.write unit depth path (index + 1)
          (opened.addBlock unit depth keys.value body) rest journal

end

/-- The text of a selector and what the pass that writes it reports. -/
def Selector.compileReporting (options : CompileOptions) (selector : Selector) :
    String × Journal :=
  selector.write options.unit options.included options.depth [] {}

/-! ## What the pass writes -/

theorem Selection.textOfAll_append (unit : String) (depth : Nat) (earlier later : List Selection) :
    textOfAll unit depth (earlier ++ later) =
      textOfAll unit depth earlier ++ textOfAll unit depth later := by
  induction earlier with
  | nil => rw [List.nil_append, textOfAll, String.empty_append]
  | cons first rest ih => rw [List.cons_append, textOfAll, ih, textOfAll, String.append_assoc]

namespace LevelWalk

/-- The level as it is written when the walk has come this far. -/
def written (unit : String) (depth : Nat) (walk : LevelWalk) : LevelText :=
  ⟨walk.used, textOfAll unit depth walk.entries⟩

theorem written_addLeaf (unit : String) (depth : Nat) (walk : LevelWalk) (name : String) :
    (walk.addLeaf name).written unit depth = (walk.written unit depth).addLine unit depth name := by
  unfold LevelText.addLine addLeaf
  by_cases taken : name ∈ walk.used
  · rw [if_pos taken, if_pos (show name ∈ (walk.written unit depth).used from taken)]
  · rw [if_neg taken, if_neg (show name ∉ (walk.written unit depth).used from taken)]
    simp only [written, textOfAll_append, textOfAll, text, String.append_empty]

theorem written_addBlock (unit : String) (depth : Nat) (walk : LevelWalk) (name : String)
    (body : List Selection) :
    (walk.addBlock name body).written unit depth =
      (walk.written unit depth).addBlock unit depth name (textOfAll unit (depth + 1) body) := by
  simp only [written, addBlock, LevelText.addBlock, textOfAll_append, textOfAll, text,
    String.append_empty]

theorem written_foldl_addLeaf (unit : String) (depth : Nat) (walk : LevelWalk)
    (names : List String) :
    (names.foldl addLeaf walk).written unit depth =
      names.foldl (LevelText.addLine unit depth) (walk.written unit depth) := by
  induction names generalizing walk with
  | nil => rfl
  | cons name rest ih => rw [List.foldl_cons, List.foldl_cons, ih, written_addLeaf]

end LevelWalk

namespace Relationship

/-- What is left out on account of one relationship that stands at the end of the
path: itself, or something below its block. -/
def omissionsAt (path : SelectorPath) (used : List String) (relationship : Relationship) :
    List Omission :=
  match relationship.resolve used with
  | .error cause => [⟨path, cause⟩]
  | .ok _ => relationship.selector.omissionsFrom path

theorem omissions_cons (path : SelectorPath) (index : Nat) (used : List String)
    (relationship : Relationship) (rest : List Relationship) :
    omissions path index used (relationship :: rest) =
      relationship.omissionsAt (path ++ [index]) used ++
        omissions path (index + 1) (relationship.usedAfter used) rest := by
  obtain ⟨kind, keyId, keyValue, target⟩ := relationship
  cases result : resolve used ⟨kind, keyId, keyValue, target⟩ with
  | error cause =>
      simp only [omissions, omissionsAt, result, usedAfter_of_error result, List.singleton_append]
  | ok keys => simp only [omissions, omissionsAt, result, usedAfter_of_ok result]

theorem write_cons (unit : String) (depth : Nat) (path : SelectorPath) (index : Nat)
    (level : LevelText) (relationship : Relationship) (rest : List Relationship)
    (journal : Journal) :
    write unit depth path index level (relationship :: rest) journal =
      write unit depth path (index + 1)
        (write unit depth path index level [relationship] journal).1 rest
        (write unit depth path index level [relationship] journal).2 := by
  obtain ⟨kind, keyId, keyValue, target⟩ := relationship
  simp only [write]
  split
  · rfl
  · split <;> rfl

/-- The pass takes one relationship in as the outline does, and reports what is left
out on its account. -/
theorem write_singleton {relationship : Relationship}
    (target : ∀ unit included depth path journal,
      relationship.selector.write unit included depth path journal =
        (textOfAll unit depth (relationship.selector.outline included),
          journal.omitAll (relationship.selector.omissionsFrom path)))
    (unit : String) (depth : Nat) (path : SelectorPath) (index : Nat) {walk : LevelWalk}
    {used : List String} (same : ∀ name, name ∈ walk.used ↔ name ∈ used) (journal : Journal) :
    write unit depth path index (walk.written unit depth) [relationship] journal =
      ((outline walk [relationship]).written unit depth,
        journal.omitAll (relationship.omissionsAt (path ++ [index]) used)) := by
  obtain ⟨kind, keyId, keyValue, selector⟩ := relationship
  cases required : requireKeys ⟨kind, keyId, keyValue, selector⟩ with
  | error missing =>
      have untouched : outline walk [⟨kind, keyId, keyValue, selector⟩] = walk := by
        cases keyId <;> cases keyValue <;> cases required <;> simp only [outline]
      rw [untouched, omissionsAt, resolve, required]
      simp only [write, required, Journal.skip_eq required]
  | ok keys =>
      obtain ⟨id, value⟩ := keys
      obtain ⟨rfl, rfl⟩ : keyId = some id ∧ keyValue = some value := by
        cases keyId <;> cases keyValue <;> cases required
        exact ⟨rfl, rfl⟩
      have asked : value ∈ (walk.written unit depth).used ↔ value ∈ used := same value
      by_cases taken : value ∈ used
      · rw [omissionsAt, resolve, required]
        simp only [write, required, outline, asked, (same value), taken, if_true,
          Journal.duplicate_eq]
      · rw [omissionsAt, resolve, required]
        simp only [write, required, outline, asked, (same value), taken, if_false]
        have body := target unit (kind.passedDown ⟨id, value⟩) (depth + 1) (path ++ [index]) journal
        rw [body]
        cases kind <;>
          simp only [RelationshipKind.isContainment, RelationshipKind.passedDown,
            LevelWalk.written_addBlock, LevelWalk.written_addLeaf, if_true, if_false,
            Bool.false_eq_true]

/-- **The pass writes the outline of a level and reports its omissions.** -/
theorem write_eq {relationships : List Relationship}
    (targets : ∀ relationship ∈ relationships, ∀ unit included depth path journal,
      relationship.selector.write unit included depth path journal =
        (textOfAll unit depth (relationship.selector.outline included),
          journal.omitAll (relationship.selector.omissionsFrom path)))
    (unit : String) (depth : Nat) (path : SelectorPath) (index : Nat) {walk : LevelWalk}
    {used : List String} {entries : List Selection} (agrees : walk.Agrees used entries)
    (journal : Journal) :
    write unit depth path index (walk.written unit depth) relationships journal =
      ((outline walk relationships).written unit depth,
        journal.omitAll (omissions path index used relationships)) := by
  induction relationships generalizing index walk used entries journal with
  | nil => rw [write, outline, omissions, Journal.omitAll_nil]
  | cons first rest ih =>
      have one := write_singleton (targets first List.mem_cons_self) unit depth path index
        agrees.used_iff journal
      have next := agrees_outline_singleton first.selector.selections_eq_outline agrees
      have others := ih (fun relationship member =>
        targets relationship (List.mem_cons_of_mem first member)) (index + 1) next
      rw [write_cons, one, outline_cons walk first rest, omissions_cons, Journal.omitAll_append]
      exact others _

end Relationship

theorem Selector.write_eq (selector : Selector) : ∀ unit included depth path journal,
    selector.write unit included depth path journal =
      (textOfAll unit depth (selector.outline included),
        journal.omitAll (selector.omissionsFrom path)) := by
  induction selector using Selector.induction with
  | node relationships fields targets =>
      intro unit included depth path journal
      have start : LevelWalk.Agrees {} [] [] := ⟨by simp, rfl⟩
      have level := Relationship.write_eq targets unit depth path 0 start journal
      have empty : LevelWalk.written unit depth {} = {} := by
        rw [LevelWalk.written, textOfAll]
      rw [empty] at level
      rw [Selector.write, Selector.outline, Selector.omissionsFrom, level]
      simp only [← LevelWalk.written_foldl_addLeaf]
      rfl

/-- **The pass gives the text of the selector, its diagnostics and the records of its
omissions.** -/
theorem Selector.compileReporting_eq (options : CompileOptions) (selector : Selector) :
    selector.compileReporting options =
      (selector.compile options, ⟨selector.diagnostics, selector.omissionRecords⟩) := by
  rw [compileReporting, write_eq, selections_eq_outline]
  rfl

/-- The selection set is what a compilation lays out, and what the pass writes. -/
structure Selector.LaysOut (selector : Selector) (options : CompileOptions)
    (entries : List Selection) : Prop where
  text_eq : selector.compile options = textOfAll options.unit options.depth entries
  written_eq : (selector.compileReporting options).1 = selector.compile options

theorem Selector.laysOut_selections (selector : Selector) (options : CompileOptions) :
    selector.LaysOut options (selector.selections options.included) where
  text_eq := rfl
  written_eq := by rw [compileReporting_eq]

/-- A pass reports the diagnostics of the selector, with all options. -/
theorem Selector.diagnostics_compileReporting (selector : Selector) (options : CompileOptions) :
    (selector.compileReporting options).2.diagnostics = selector.diagnostics := by
  rw [compileReporting_eq]

end GraphSelect
