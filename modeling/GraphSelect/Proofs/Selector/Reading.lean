import GraphSelect.Proofs.Json.Layout
import GraphSelect.Proofs.Json.Reading
import GraphSelect.Selector.Reader

/-!
# Reading a selector from its value

A selector is read from the nodes of a document. Where the document can be read as a
value, this comes to the same as reading the selector from the value: both fail, or both
give the same draft. Each lemma here says so for one part of a selector.
-/

set_option autoImplicit false

namespace GraphSelect

/-! ## Nodes that are read -/

/-- A node with the value that is read from it, as a scalar, a list or an object. -/
inductive Node.ReadsAs (room : Nat) : Node → Json → Prop where
  | scalar {start stop : Nat} {value : Json} (isScalar : value.isScalar) :
      ReadsAs room (.scalar start stop value) value
  | list {start inner stop : Nat} {items : List Node} {ending : Ending} {values : List Json}
      (entered : Node.enter start room = .ok inner)
      (elements : Node.readItems inner items = .ok values)
      (closed : ending.read .list = .ok stop) (inside : ∀ item ∈ items, item.Genuine) :
      ReadsAs room (.list start items ending) (.array values)
  | object {start inner stop : Nat} {members : List (Key × Node)} {ending : Ending}
      {values : List (String × Json)} (entered : Node.enter start room = .ok inner)
      (spelled : Node.readMembers inner members = .ok values)
      (closed : ending.read .object = .ok stop) (inside : ∀ member ∈ members, member.2.Genuine) :
      ReadsAs room (.object start members ending) (.object values)

theorem Node.Genuine.readsAs {room : Nat} {node : Node} {value : Json} (genuine : node.Genuine)
    (read : node.read room = .ok value) : node.ReadsAs room value := by
  cases genuine with
  | scalar isScalar =>
      cases read
      exact .scalar isScalar
  | unreadable => cases read
  | broken => cases read
  | list inside =>
      obtain ⟨inner, values, stop, entered, elements, closed, rfl⟩ :=
        Node.read_list_eq_ok_iff.mp read
      exact .list entered elements closed inside
  | object inside =>
      obtain ⟨inner, values, stop, entered, spelled, closed, rfl⟩ :=
        Node.read_object_eq_ok_iff.mp read
      exact .object entered spelled closed inside

/-- A list that ends with its bracket is finished when nothing more is in it. -/
theorem Ending.toOption_finish {ending : Ending} {stop : Nat} (more : List Node)
    (closed : ending.read .list = .ok stop) :
    (ending.finish more).toOption = if more.isEmpty then some () else none := by
  cases more with
  | nil =>
      cases ending with
      | closed stop => rfl
      | inside => rfl
      | _ => cases closed
  | cons next more => rfl

theorem Node.isEmpty_of_readItems {room : Nat} {items : List Node} {values : List Json}
    (read : readItems room items = .ok values) : values.isEmpty = items.isEmpty := by
  cases items with
  | nil =>
      cases read
      rfl
  | cons first rest =>
      obtain ⟨value, more, -, -, rfl⟩ := readItems_cons_eq_ok_iff.mp read
      rfl

/-! ## Metadata -/

namespace DraftMetadata

variable {room : Nat} {node : Node} {value : Json}

theorem toOption_fieldsOfNode (genuine : node.Genuine) (read : node.read room = .ok value) :
    (fieldsOfNode room node).toOption = (fieldsOfJson value).toOption := by
  cases genuine.readsAs read with
  | scalar isScalar =>
      cases value with
      | array items => cases isScalar
      | object members => cases isScalar
      | _ => rfl
  | list entered elements closed inside =>
      simp only [fieldsOfNode, fieldsOfJson, entered, elements, closed, toOption_bind,
        toOption_ok, toOption_pure, Option.bind_some]
  | object => rfl

theorem toOption_ofNodeMembers {members : List (Key × Node)} {values : List (String × Json)}
    {found : Option (Option (List Json))} (genuine : ∀ member ∈ members, member.2.Genuine)
    (read : Node.readMembers room members = .ok values) :
    (ofNodeMembers room found members).toOption = (ofMembers found values).toOption := by
  induction members generalizing found values with
  | nil =>
      cases read
      rfl
  | cons member rest ih =>
      obtain ⟨key, node⟩ := member
      rw [List.forall_mem_cons] at genuine
      obtain ⟨name, value, more, text, first, others, rfl⟩ :=
        Node.readMembers_cons_eq_ok_iff.mp read
      have later (found : Option (Option (List Json))) :
          (ofNodeMembers room found rest).toOption = (ofMembers found more).toOption :=
        ih genuine.2 others
      simp only [ofNodeMembers, ofMembers, text, toOption_bind, toOption_ok, Option.bind_some]
      split
      · split
        · rfl
        · simp only [toOption_bind, toOption_fieldsOfNode genuine.1 first, later]
      · simp only [toOption_bind, Node.skim_of_read node first, toOption_ok, Option.bind_some,
          later]

theorem toOption_ofNode (genuine : node.Genuine) (read : node.read room = .ok value) :
    (ofNode room node).toOption = (ofJson value).toOption := by
  cases genuine.readsAs read with
  | scalar isScalar =>
      cases value with
      | array items => cases isScalar
      | object members => cases isScalar
      | _ => rfl
  | @list _ _ _ items _ _ entered elements closed inside =>
      cases items with
      | nil =>
          cases elements
          simp only [ofNode, ofJson, entered, closed, toOption_bind, toOption_ok, toOption_pure,
            Option.bind_some]
      | cons first rest =>
          obtain ⟨value, more, head, others, rfl⟩ :=
            Node.readItems_cons_eq_ok_iff.mp elements
          simp only [ofNode, ofJson, entered, toOption_bind, toOption_ok, Option.bind_some,
            toOption_fieldsOfNode (inside first List.mem_cons_self) head,
            Ending.toOption_finish rest closed, Node.isEmpty_of_readItems others]
          split <;> rfl
  | object entered spelled closed inside =>
      simp only [ofNode, ofJson, entered, closed, toOption_bind, toOption_ok, toOption_pure,
        toOption_map, Option.bind_some, toOption_ofNodeMembers inside spelled,
        Option.map_eq_bind, Function.comp_def]

end DraftMetadata

/-! ## Relationships -/

namespace DraftRelationship

variable {room : Nat}

/-- The members of a relationship are those of its value, when no own member is given
twice. -/
theorem toOption_readMembers {members : List (Key × Node)} {values : List (String × Json)}
    {seen seen' : List String} (agree : ∀ name ∈ ownNames, name ∈ seen ↔ name ∈ seen')
    (read : Node.readMembers room members = .ok values) :
    (readMembers room seen members).toOption =
      (checkOwn seen' values).toOption.map fun _ => values := by
  induction members generalizing seen seen' values with
  | nil =>
      cases read
      rfl
  | cons member rest ih =>
      obtain ⟨key, node⟩ := member
      obtain ⟨name, value, more, text, first, others, rfl⟩ :=
        Node.readMembers_cons_eq_ok_iff.mp read
      have later (seen' : List String)
          (agree : ∀ known ∈ ownNames, known ∈ name :: seen ↔ known ∈ seen') :
          (readMembers room (name :: seen) rest).toOption =
            (checkOwn seen' more).toOption.map fun _ => more := ih agree others
      simp only [readMembers, checkOwn, text, first, toOption_bind, toOption_ok, Option.bind_some]
      by_cases own : name ∈ ownNames
      · by_cases twice : name ∈ seen
        · simp only [own, twice, (agree name own).mp twice, and_self, if_true]
          rfl
        · have fresh : name ∉ seen' := fun member => twice ((agree name own).mpr member)
          have agree' : ∀ known ∈ ownNames, known ∈ name :: seen ↔ known ∈ name :: seen' :=
            fun known ofOwn => by rw [List.mem_cons, List.mem_cons, agree known ofOwn]
          simp only [own, twice, fresh, and_false, if_true, if_false, toOption_bind, toOption_ok,
            Option.bind_some, toOption_pure, later _ agree']
          cases (checkOwn (name :: seen') more).toOption <;> rfl
      · have agree' : ∀ known ∈ ownNames, known ∈ name :: seen ↔ known ∈ seen' := by
          intro known ofOwn
          have other : known ≠ name := fun same => own (same ▸ ofOwn)
          rw [List.mem_cons, agree known ofOwn, or_iff_right other]
        simp only [own, false_and, if_false, toOption_bind, toOption_ok, Option.bind_some,
          toOption_pure, later _ agree']
        cases (checkOwn seen' more).toOption <;> rfl

theorem toOption_ofNode {node : Node} {value : Json} (genuine : node.Genuine)
    (read : node.read room = .ok value) :
    (ofNode room node).toOption = (ofJson value).toOption := by
  cases genuine.readsAs read with
  | scalar isScalar =>
      cases value with
      | array items => cases isScalar
      | object members => cases isScalar
      | _ => rfl
  | list => rfl
  | @object start inner stop members ending values entered spelled closed inside =>
      have checked : (readMembers inner [] members).toOption =
          (checkOwn [] values).toOption.map fun _ => values :=
        toOption_readMembers (fun _ _ => Iff.rfl) spelled
      simp only [ofNode, entered, closed, toOption_bind, toOption_ok, Option.bind_some, checked]
      cases once : checkOwn [] values with
      | ok _ =>
          simp only [toOption_ok, Option.map_some, Option.bind_some]
          cases ofJson (.object values) <;> rfl
      | error fault =>
          rw [ofJson, once]
          rfl

end DraftRelationship

/-! ## Selectors -/

namespace Draft

variable {room : Nat}

theorem toOption_mapM_ofNode {items : List Node} {values : List Json}
    (genuine : ∀ item ∈ items, item.Genuine) (read : Node.readItems room items = .ok values) :
    (items.mapM (DraftRelationship.ofNode room)).toOption =
      (DraftRelationship.ofItems values).toOption := by
  induction items generalizing values with
  | nil =>
      cases read
      rfl
  | cons first rest ih =>
      rw [List.forall_mem_cons] at genuine
      obtain ⟨value, more, head, others, rfl⟩ := Node.readItems_cons_eq_ok_iff.mp read
      simp only [List.mapM_cons, DraftRelationship.ofItems, toOption_bind, toOption_pure,
        DraftRelationship.toOption_ofNode genuine.1 head, ih genuine.2 others]

theorem toOption_relationshipsOfNode {node : Node} {value : Json} (genuine : node.Genuine)
    (read : node.read room = .ok value) :
    (relationshipsOfNode room node).toOption = (relationshipsOfJson value).toOption := by
  cases genuine.readsAs read with
  | scalar isScalar =>
      cases value with
      | array items => cases isScalar
      | object members => cases isScalar
      | _ =>
          simp only [relationshipsOfJson]
          rfl
  | list entered elements closed inside =>
      simp only [relationshipsOfNode, relationshipsOfJson, entered, closed, toOption_bind,
        toOption_ok, toOption_pure, toOption_map, Option.bind_some,
        toOption_mapM_ofNode inside elements, Option.map_eq_bind, Function.comp_def]
  | object =>
      simp only [relationshipsOfJson]
      rfl

theorem toOption_ofNodeMembers {members : List (Key × Node)} {values : List (String × Json)}
    {relationships : Option (Option (List DraftRelationship))}
    {metadata : Option (Option DraftMetadata)}
    (genuine : ∀ member ∈ members, member.2.Genuine)
    (read : Node.readMembers room members = .ok values) :
    (ofNodeMembers room relationships metadata members).toOption =
      (ofMembers relationships metadata values).toOption := by
  induction members generalizing relationships metadata values with
  | nil =>
      cases read
      rw [ofMembers]
      rfl
  | cons member rest ih =>
      obtain ⟨key, node⟩ := member
      rw [List.forall_mem_cons] at genuine
      obtain ⟨name, value, more, text, first, others, rfl⟩ :=
        Node.readMembers_cons_eq_ok_iff.mp read
      have later (relationships : Option (Option (List DraftRelationship)))
          (metadata : Option (Option DraftMetadata)) :
          (ofNodeMembers room relationships metadata rest).toOption =
            (ofMembers relationships metadata more).toOption := ih genuine.2 others
      simp only [ofNodeMembers, ofMembers, text, toOption_bind, toOption_ok, Option.bind_some]
      split
      · split
        · rfl
        · simp only [toOption_bind, toOption_relationshipsOfNode genuine.1 first, later]
      · split
        · split
          · rfl
          · simp only [toOption_bind, DraftMetadata.toOption_ofNode genuine.1 first, later]
        · simp only [toOption_bind, Node.skim_of_read node first, toOption_ok, Option.bind_some,
            later]

end Draft

end GraphSelect
