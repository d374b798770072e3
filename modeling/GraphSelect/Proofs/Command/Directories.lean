import GraphSelect.Command.Directory
import Mathlib.Tactic.SplitIfs

/-!
# Reading from a working directory

A path is followed one component at a time. A step from the outside stays there, so nothing
but the files of the directory is ever met (`Directory.Place.Listed`), and whatever is read
is the content of one of them (`Directory.exists_mem_of_read`).

The other way around, a file is found by its path when the path only goes down and no other
file stands on the way (`Directory.read_of_listed`).
-/

set_option autoImplicit false

namespace GraphSelect
namespace Directory

variable {directory : Directory}

/-- The place that a path leads to. -/
def follow (directory : Directory) (path : String) : Except ReadFault Place :=
  (components path).foldlM directory.enter
    (if path.startsWith "/" then .outer else .inner [])

/-- The path can be asked for, and does not ask for a directory. -/
structure IsFilePath (path : String) : Prop where
  nonempty : path ≠ ""
  noNul : '\x00' ∉ path.toList
  short : path.utf8ByteSize < pathLimit
  file : path.endsWith "/" = false

/-- A text is read when the path leads to a file with this text in it. -/
theorem read_eq_ok_iff {path text : String} :
    directory.read path = .ok text ↔ IsFilePath path ∧
      ∃ content, directory.follow path = .ok (.file content) ∧
        String.fromUTF8? content = some text := by
  constructor
  · intro got
    unfold read at got
    simp only [bind, Except.bind, pure, Except.pure, throw, throwThe, MonadExceptOf.throw] at got
    rw [← follow] at got
    cases followed : directory.follow path with
    | error fault =>
        rw [followed] at got
        split_ifs at got
    | ok place =>
        rw [followed] at got
        cases place with
        | inner here => split_ifs at got
        | outer => split_ifs at got
        | file content =>
            simp only at got
            split_ifs at got with empty nul long slash
            rw [String.isEmpty_iff] at empty
            rw [List.contains_iff_mem] at nul
            refine ⟨⟨empty, nul, Nat.lt_of_not_le long, Bool.eq_false_iff.mpr slash⟩, content,
              rfl, ?_⟩
            split at got
            · next decoded =>
              cases got
              exact decoded
            · cases got
  · rintro ⟨asked, content, followed, decoded⟩
    have empty : ¬path.isEmpty = true := by
      rw [String.isEmpty_iff]
      exact asked.nonempty
    have nul : ¬path.toList.contains '\x00' = true := by
      rw [List.contains_iff_mem]
      exact asked.noNul
    have slash : ¬path.endsWith "/" = true := by
      rw [asked.file]
      exact Bool.false_ne_true
    rw [follow] at followed
    simp only [read, if_neg empty, if_neg nul, if_neg (Nat.not_le_of_lt asked.short), if_neg slash,
      followed, decoded, bind, Except.bind, pure, Except.pure]

/-! ## Only listed files are read -/

/-- A file at the place is one of the directory. -/
def Place.Listed (directory : Directory) : Place → Prop
  | .file content => ∃ path, (path, content) ∈ directory.files
  | _ => True

/-- Every step leads to a listed place. -/
theorem listed_of_enter {place next : Place} {component : String}
    (entered : directory.enter place component = .ok next) : next.Listed directory := by
  unfold enter at entered
  split at entered
  · cases entered
  · split_ifs at entered
    cases entered
    trivial
  · split_ifs at entered
    · cases entered
      trivial
    · cases entered
      trivial
    · cases entered
      trivial
    · dsimp only at entered
      split at entered
      · next file found =>
        cases entered
        exact ⟨file.1, List.mem_of_find?_eq_some found⟩
      · split_ifs at entered
        cases entered
        trivial

theorem listed_of_foldlM {components : List String} {place last : Place}
    (listed : place.Listed directory)
    (followed : components.foldlM directory.enter place = .ok last) : last.Listed directory := by
  induction components generalizing place with
  | nil =>
      cases followed
      exact listed
  | cons component rest ih =>
      rw [List.foldlM_cons] at followed
      cases entered : directory.enter place component with
      | error fault =>
          rw [entered] at followed
          cases followed
      | ok next =>
          rw [entered] at followed
          exact ih (listed_of_enter entered) followed

/-- **What is read is the content of a listed file.** -/
theorem exists_mem_of_read {path text : String} (got : directory.read path = .ok text) :
    ∃ file ∈ directory.files, String.fromUTF8? file.2 = some text := by
  obtain ⟨-, content, followed, decoded⟩ := read_eq_ok_iff.mp got
  have listed : (Place.file content).Listed directory := by
    refine listed_of_foldlM ?_ followed
    split <;> trivial
  obtain ⟨listedPath, member⟩ := listed
  exact ⟨(listedPath, content), member, decoded⟩

/-! ## Listed files are found -/

/-- The component goes down, and is not too long for a name. -/
structure IsName (component : String) : Prop where
  moves : component ≠ "."
  down : component ≠ ".."
  short : component.utf8ByteSize ≤ longestName

/-- A file is the one that its path names, and no file stands on the way to it. -/
structure Holds (directory : Directory) (path : List String) (content : ByteArray) : Prop where
  found : directory.files.find? (fun file => file.1 = path) = some (path, content)
  clear : ∀ file ∈ directory.files, file.1 <+: path → file.1 = path

theorem enter_of_found {here : List String} {name : String} (proper : IsName name)
    {file : List String × ByteArray}
    (found : directory.files.find? (fun file => file.1 = here ++ [name]) = some file) :
    directory.enter (.inner here) name = .ok (.file file.2) := by
  simp only [enter, if_neg proper.moves, if_neg proper.down,
    if_neg (Nat.not_lt.mpr proper.short), found]

theorem enter_of_leads {here : List String} {name : String} (proper : IsName name)
    (free : directory.files.find? (fun file => file.1 = here ++ [name]) = none)
    (leads : ∃ file ∈ directory.files, here ++ [name] <+: file.1) :
    directory.enter (.inner here) name = .ok (.inner (here ++ [name])) := by
  have goesOn : (directory.files.any fun file => (here ++ [name]).isPrefixOf file.1) = true := by
    simpa only [List.any_eq_true, List.isPrefixOf_iff_prefix] using leads
  simp only [enter, if_neg proper.moves, if_neg proper.down,
    if_neg (Nat.not_lt.mpr proper.short), free, goesOn, if_true]

/-- From a directory on the way the rest of the path leads to the file. -/
theorem Holds.foldlM_enter {here : List String} {name : String} {rest : List String}
    {content : ByteArray} (holds : directory.Holds (here ++ name :: rest) content)
    (proper : ∀ component ∈ name :: rest, IsName component) :
    (name :: rest).foldlM directory.enter (.inner here) = .ok (.file content) := by
  induction rest generalizing here name with
  | nil =>
      rw [List.foldlM_cons, enter_of_found (proper name List.mem_cons_self) holds.found]
      rfl
  | cons next others ih =>
      have spelled : here ++ name :: next :: others = here ++ [name] ++ next :: others := by
        rw [List.append_assoc, List.singleton_append]
      -- A file that is met before the end is in the way.
      have free : directory.files.find? (fun file => file.1 = here ++ [name]) = none := by
        rw [List.find?_eq_none]
        intro file member same
        have met : file.1 = here ++ [name] := of_decide_eq_true same
        have whole := holds.clear file member (met ▸ spelled ▸ List.prefix_append _ _)
        rw [met, spelled] at whole
        exact List.cons_ne_nil next others (List.append_right_eq_self.mp whole.symm)
      have leads : ∃ file ∈ directory.files, here ++ [name] <+: file.1 :=
        ⟨_, List.mem_of_find?_eq_some holds.found, spelled ▸ List.prefix_append _ _⟩
      obtain ⟨first, later⟩ := List.forall_mem_cons.mp proper
      rw [List.foldlM_cons, enter_of_leads first free leads]
      exact ih (spelled ▸ holds) later

/-- **A listed file is read by its path.** The path goes down from the directory, and its
components name the file. -/
theorem read_of_listed {path : String} {content : ByteArray} {text : String}
    (asked : IsFilePath path) (relative : path.startsWith "/" = false)
    (some : components path ≠ []) (proper : ∀ component ∈ components path, IsName component)
    (holds : directory.Holds (components path) content)
    (decoded : String.fromUTF8? content = .some text) : directory.read path = .ok text := by
  refine read_eq_ok_iff.mpr ⟨asked, content, ?_, decoded⟩
  rw [follow, relative]
  obtain ⟨name, rest, split⟩ := List.exists_cons_of_ne_nil some
  rw [split] at holds proper ⊢
  exact Holds.foldlM_enter holds proper

end Directory
end GraphSelect
