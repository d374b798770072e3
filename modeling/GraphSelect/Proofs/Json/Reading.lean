import GraphSelect.Json.Node

/-!
# What reading a node means

A list is read when there is room for it, all its nodes are read and it ends with its
bracket; the same holds of an object and its members (`Node.read_list_eq_ok_iff`,
`Node.read_object_eq_ok_iff`). What can be read can be skimmed (`Node.skim_of_read`).

Two readers that disagree only in what they report for a fault give the same
`Except.toOption`.
-/

set_option autoImplicit false

namespace GraphSelect

/-! ## Results without their faults -/

section Results

variable {ε α β : Type}

theorem bind_eq_ok_iff {result : Except ε α} {next : α → Except ε β} {value : β} :
    result >>= next = .ok value ↔ ∃ middle, result = .ok middle ∧ next middle = .ok value := by
  cases result with
  | ok middle => exact ⟨fun same => ⟨middle, rfl, same⟩, fun ⟨_, rfl, same⟩ => same⟩
  | error fault => exact ⟨nofun, nofun⟩

@[simp] theorem toOption_ok (value : α) : (.ok value : Except ε α).toOption = some value := rfl

@[simp] theorem toOption_error (fault : ε) : (.error fault : Except ε α).toOption = none := rfl

@[simp] theorem toOption_pure (value : α) : (pure value : Except ε α).toOption = some value := rfl

@[simp] theorem toOption_bind (result : Except ε α) (next : α → Except ε β) :
    (result >>= next).toOption = result.toOption.bind fun value => (next value).toOption := by
  cases result <;> rfl

@[simp] theorem toOption_map (result : Except ε α) (f : α → β) :
    (f <$> result).toOption = result.toOption.map f := by
  cases result <;> rfl

theorem toOption_eq_some_iff {result : Except ε α} {value : α} :
    result.toOption = some value ↔ result = .ok value := by
  cases result <;> simp

end Results

/-! ## Reading containers -/

namespace Node

variable {room : Nat}

theorem read_list_eq_ok_iff {start : Nat} {items : List Node} {ending : Ending} {value : Json} :
    (list start items ending).read room = .ok value ↔
      ∃ inner values stop, enter start room = .ok inner ∧ readItems inner items = .ok values ∧
        ending.read .list = .ok stop ∧ value = .array values := by
  simp only [read, bind_eq_ok_iff, pure, Except.pure, Except.ok.injEq]
  grind

theorem read_object_eq_ok_iff {start : Nat} {members : List (Key × Node)} {ending : Ending}
    {value : Json} :
    (object start members ending).read room = .ok value ↔
      ∃ inner values stop, enter start room = .ok inner ∧
        readMembers inner members = .ok values ∧ ending.read .object = .ok stop ∧
          value = .object values := by
  simp only [read, bind_eq_ok_iff, pure, Except.pure, Except.ok.injEq]
  grind

theorem readItems_cons_eq_ok_iff {first : Node} {rest : List Node} {values : List Json} :
    readItems room (first :: rest) = .ok values ↔
      ∃ value more, first.read room = .ok value ∧ readItems room rest = .ok more ∧
        values = value :: more := by
  simp only [readItems, bind_eq_ok_iff, pure, Except.pure, Except.ok.injEq]
  grind

theorem readMembers_cons_eq_ok_iff {key : Key} {node : Node} {rest : List (Key × Node)}
    {values : List (String × Json)} :
    readMembers room ((key, node) :: rest) = .ok values ↔
      ∃ name value more, key.text = .ok name ∧ node.read room = .ok value ∧
        readMembers room rest = .ok more ∧ values = (name, value) :: more := by
  simp only [readMembers, bind_eq_ok_iff, pure, Except.pure, Except.ok.injEq]
  grind

/-- One more item behind the ones that are read. -/
theorem readItems_concat {done : List Node} {node : Node} {values : List Json} {value : Json}
    (before : readItems room done = .ok values) (last : node.read room = .ok value) :
    readItems room (done ++ [node]) = .ok (values ++ [value]) := by
  induction done generalizing values with
  | nil =>
      cases before
      rw [List.nil_append, readItems, last]
      rfl
  | cons first rest ih =>
      obtain ⟨one, more, read, others, rfl⟩ := readItems_cons_eq_ok_iff.mp before
      exact readItems_cons_eq_ok_iff.mpr ⟨one, _, read, ih others, rfl⟩

/-- One more member behind the ones that are read. -/
theorem readMembers_concat {done : List (Key × Node)} {key : Key} {node : Node}
    {values : List (String × Json)} {name : String} {value : Json}
    (before : readMembers room done = .ok values) (named : key.text = .ok name)
    (last : node.read room = .ok value) :
    readMembers room (done ++ [(key, node)]) = .ok (values ++ [(name, value)]) := by
  induction done generalizing values with
  | nil =>
      cases before
      rw [List.nil_append]
      exact readMembers_cons_eq_ok_iff.mpr ⟨name, value, [], named, last, rfl, rfl⟩
  | cons first rest ih =>
      obtain ⟨one, found, more, key, read, others, rfl⟩ :=
        readMembers_cons_eq_ok_iff.mp before
      exact readMembers_cons_eq_ok_iff.mpr ⟨one, found, _, key, read, ih others, rfl⟩

end Node

/-! ## Skimming what can be read -/

theorem Ending.skim_of_read {container : Container} {ending : Ending} {stop : Nat}
    (closed : ending.read container = .ok stop) : ending.skim container = .ok () := by
  cases ending with
  | closed stop => rfl
  | inside => rfl
  | _ => cases closed

namespace Node

mutual

/-- What can be read can be skimmed. -/
theorem skim_of_read {room : Nat} {value : Json} :
    ∀ node : Node, node.read room = .ok value → node.skim = .ok ()
  | scalar .., _ => rfl
  | unreadable .., _ => rfl
  | broken .., failed => nomatch failed
  | list _ items _, good => by
      obtain ⟨inner, values, stop, -, read, closed, -⟩ := read_list_eq_ok_iff.mp good
      rw [skim, skimItems_of_read items read, Ending.skim_of_read closed]
      rfl
  | object _ members _, good => by
      obtain ⟨inner, values, stop, -, read, closed, -⟩ := read_object_eq_ok_iff.mp good
      rw [skim, skimMembers_of_read members read, Ending.skim_of_read closed]
      rfl

theorem skimItems_of_read {room : Nat} {values : List Json} :
    ∀ items : List Node, readItems room items = .ok values → skimItems items = .ok ()
  | [], _ => rfl
  | first :: rest, good => by
      obtain ⟨value, more, read, others, -⟩ := readItems_cons_eq_ok_iff.mp good
      rw [skimItems, skim_of_read first read, skimItems_of_read rest others]
      rfl

theorem skimMembers_of_read {room : Nat} {values : List (String × Json)} :
    ∀ members : List (Key × Node), readMembers room members = .ok values →
      skimMembers members = .ok ()
  | [], _ => rfl
  | (_, node) :: rest, good => by
      obtain ⟨name, value, more, -, read, others, -⟩ := readMembers_cons_eq_ok_iff.mp good
      rw [skimMembers, skim_of_read node read, skimMembers_of_read rest others]
      rfl

end

end Node

end GraphSelect
