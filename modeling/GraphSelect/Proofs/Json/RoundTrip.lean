import GraphSelect.Proofs.Json.Members
import GraphSelect.Proofs.Json.Reading
import GraphSelect.Proofs.Json.Steps

/-!
# Values come back from their text

A value is readable when its numbers are integers, the members of each object have names of
their own, and it is not nested too deep (`Json.Readable`). Wherever the text of such a value
stands in a document, it is laid out as a node that reads as the value, provided that a number
does not go on behind it (`Json.Readable.readsBack`). The induction carries a list or an object
that is open, the nodes of which read as the values that are done so far
(`Document.complete_items`, `Document.complete_members`).

A document that is the text of a readable value therefore parses as the value
(`Json.parse_text`).
-/

set_option autoImplicit false

namespace GraphSelect

open Text Cursor

/-! ## Values that can be read back -/

/-- The numbers of the value are integers, no object gives a name twice, and at most `room`
lists and objects are inside each other. -/
inductive Json.Readable : Nat → Json → Prop where
  | null (room : Nat) : Readable room .null
  | bool (room : Nat) (value : Bool) : Readable room (.bool value)
  | integer (room : Nat) (number : Integer) : Readable room (.number (.integer number))
  | string (room : Nat) (text : String) : Readable room (.string text)
  | array {room : Nat} {items : List Json} (each : ∀ item ∈ items, Readable room item) :
      Readable (room + 1) (.array items)
  | object {room : Nat} {members : List (String × Json)}
      (names : (members.map Prod.fst).Nodup)
      (each : ∀ member ∈ members, Readable room member.2) : Readable (room + 1) (.object members)

namespace Document

variable {stack outer : List Frame} {start offset room : Nat} {rest : List Char}

/-- Wherever the text of the value stands in a document, it is laid out as a node that reads
as the value. -/
def ReadsBack (room : Nat) (json : Json) : Prop :=
  ∀ (stack : List Frame) (offset : Nat) (rest : List Char), EndsNumber rest →
    ∃ node stop, value stack ⟨offset, json.text.toList ++ rest⟩ = complete stack node ⟨stop, rest⟩ ∧
      node.read room = .ok json

/-! ## Scalars -/

theorem readsBack_scalar {json : Json} {first : Char} {others : List Char}
    (chars : json.text.toList = first :: others) (notBlank : Cursor.isBlank first = false)
    (notList : first ≠ '[') (notObject : first ≠ '{')
    (lexeme : ∀ offset rest, EndsNumber rest →
      ∃ stop, scalarLexeme offset first (others ++ rest) = .good json ⟨stop, rest⟩) :
    ReadsBack room json := by
  intro stack offset rest ends
  obtain ⟨stop, found⟩ := lexeme offset rest ends
  refine ⟨.scalar offset stop json, stop, ?_, rfl⟩
  rw [chars]
  exact value_scalar notBlank notList notObject found

theorem readsBack_null : ReadsBack room .null := by
  have chars : Json.null.text.toList = 'n' :: ['u', 'l', 'l'] := rfl
  exact readsBack_scalar chars rfl (by decide) (by decide) fun offset _ _ => ⟨offset + 4, rfl⟩

theorem readsBack_bool (value : Bool) : ReadsBack room (.bool value) := by
  cases value with
  | false =>
      have chars : (Json.bool false).text.toList = 'f' :: ['a', 'l', 's', 'e'] := rfl
      exact readsBack_scalar chars rfl (by decide) (by decide) fun offset _ _ => ⟨offset + 5, rfl⟩
  | true =>
      have chars : (Json.bool true).text.toList = 't' :: ['r', 'u', 'e'] := rfl
      exact readsBack_scalar chars rfl (by decide) (by decide) fun offset _ _ => ⟨offset + 4, rfl⟩

theorem readsBack_integer (number : Integer) :
    ReadsBack room (.number (.integer number)) := by
  obtain ⟨first, others, repr, starts⟩ := exists_repr_eq_cons number.value
  have chars : (Json.number (.integer number)).text.toList = first :: others := by
    rw [Json.text]
    exact repr
  apply readsBack_scalar chars starts.notBlank (starts.ne (by decide)) (starts.ne (by decide))
  intro offset rest ends
  obtain ⟨stop, found⟩ := numberLexeme_integer number ends offset
  rw [repr, List.cons_append] at found
  refine ⟨stop, ?_⟩
  rw [starts.scalarLexeme_eq, found]
  rfl

/-- The literal of a string ends with its quote, whatever the string is and whatever comes
next. -/
theorem value_quoted (stack : List Frame) (text : String) (offset : Nat) (rest : List Char) :
    ∃ stop, value stack ⟨offset, (quoted text).toList ++ rest⟩ =
      complete stack (.scalar offset stop (.string text)) ⟨stop, rest⟩ := by
  obtain ⟨stop, found⟩ := stringLexeme_quoted text rest (offset + 1)
  have lexeme : scalarLexeme offset '"' (text.toList.flatMap escaped ++ '"' :: rest) =
      .good (.string text) ⟨stop, rest⟩ := by
    calc scalarLexeme offset '"' (text.toList.flatMap escaped ++ '"' :: rest)
        = (stringLexeme ⟨offset + 1, text.toList.flatMap escaped ++ '"' :: rest⟩).map .string := rfl
      _ = .good (.string text) ⟨stop, rest⟩ := by rw [found]; rfl
  refine ⟨stop, ?_⟩
  rw [toList_quoted, List.cons_append, List.append_assoc, List.singleton_append]
  exact value_scalar rfl (by decide) (by decide) lexeme

theorem readsBack_string (text : String) : ReadsBack room (.string text) := by
  intro stack offset rest _
  obtain ⟨stop, laidOut⟩ := value_quoted stack text offset rest
  refine ⟨.scalar offset stop (.string text), stop, ?_, rfl⟩
  rw [Json.text]
  exact laidOut

/-! ## Lists and objects -/

theorem endsNumber_of_separator {c : Char} (separator : c ∈ [',', ']', '}', ')'])
    (rest : List Char) : EndsNumber (c :: rest) := by
  have other : c.isDigit = false ∧ c ≠ '.' ∧ c ≠ 'e' ∧ c ≠ 'E' := by
    simp only [List.mem_cons, List.not_mem_nil, or_false] at separator
    rcases separator with rfl | rfl | rfl | rfl <;> decide
  obtain ⟨digit, point, exponent⟩ := other
  constructor
  · rintro _ ⟨⟩
    exact digit
  · rintro _ ⟨⟩
    exact point
  · rintro _ ⟨⟩
    exact exponent

/-- Further texts, each behind a separator. -/
def textOfMore (separator : List Char) (texts : List (List Char)) : List Char :=
  texts.flatMap (separator ++ ·)

theorem intercalate_cons (separator first : List Char) (others : List (List Char)) :
    separator.intercalate (first :: others) = first ++ textOfMore separator others := by
  induction others generalizing first with
  | nil => rw [List.intercalate_singleton, textOfMore, List.flatMap_nil, List.append_nil]
  | cons next others ih =>
      rw [List.intercalate_cons_cons, ih, textOfMore, textOfMore, List.flatMap_cons,
        List.append_assoc, List.append_assoc]

/-- A number does not go on behind an item: there is a comma, or the list is closed. -/
theorem endsNumber_more (blanks : List Char) (texts : List (List Char)) (closing : Char)
    (closes : closing ∈ [']', '}', ')']) (rest : List Char) :
    EndsNumber (textOfMore (',' :: blanks) texts ++ closing :: rest) := by
  cases texts with
  | nil => exact endsNumber_of_separator (List.mem_cons_of_mem _ closes) rest
  | cons next others => exact endsNumber_of_separator List.mem_cons_self _

/-- The list goes on behind an item and ends as a list of all items. -/
theorem complete_items {items : List Json} {done : List Node} {node : Node}
    {values : List Json} (each : ∀ item ∈ items, Begins item.text.toList ∧ ReadsBack room item)
    (before : Node.readItems room (node :: done).reverse = .ok values) (offset : Nat) :
    ∃ whole stop,
      complete (.list start done :: outer) node
          ⟨offset, textOfMore [','] (items.map fun item => item.text.toList) ++ ']' :: rest⟩ =
        complete outer whole ⟨stop, rest⟩ ∧
      whole.read (room + 1) = .ok (.array (values ++ items)) := by
  -- The frame holds what is done in reverse; each step moves one item to its front.
  induction items generalizing done node values offset with
  | nil =>
      refine ⟨.list start (node :: done).reverse (.closed (offset + 1)), offset + 1,
        complete_list_closed, ?_⟩
      rw [List.append_nil]
      exact Node.read_list_eq_ok_iff.mpr ⟨room, values, offset + 1, rfl, before, rfl, rfl⟩
  | cons item items ih =>
      rw [List.forall_mem_cons] at each
      obtain ⟨⟨begins, back⟩, each⟩ := each
      obtain ⟨next, stop, laidOut, read⟩ := back (.list start (node :: done) :: outer)
        (offset + 1) _ (endsNumber_more [] _ ']' (by decide) rest)
      have sofar : Node.readItems room (next :: node :: done).reverse = .ok (values ++ [item]) := by
        rw [List.reverse_cons]
        exact Node.readItems_concat before read
      obtain ⟨whole, after, goesOn, reads⟩ := ih each sofar stop
      refine ⟨whole, after, ?_, ?_⟩
      · rw [← goesOn, ← laidOut, ← complete_list_comma (begins.append _), ← List.append_assoc]
        rfl
      · rw [reads, List.append_assoc, List.singleton_append]

theorem readsBack_array {items : List Json}
    (each : ∀ item ∈ items, Begins item.text.toList ∧ ReadsBack room item) :
    ReadsBack (room + 1) (.array items) := by
  intro stack offset rest _
  rw [Json.toList_text_array, List.cons_append, List.append_assoc, List.singleton_append]
  cases items with
  | nil =>
      refine ⟨.list offset [] (.closed (offset + 2)), offset + 2, ?_, rfl⟩
      rw [List.map_nil, List.intercalate_nil, List.nil_append,
        value_list (skipBlanks_of_begin rfl _ _), if_pos rfl]
  | cons first items =>
      rw [List.forall_mem_cons] at each
      obtain ⟨⟨begins, back⟩, each⟩ := each
      obtain ⟨node, stop, laidOut, read⟩ := back (.list offset [] :: stack) (offset + 1) _
        (endsNumber_more [] _ ']' (by decide) rest)
      have sofar : Node.readItems room [node].reverse = .ok [first] :=
        Node.readItems_cons_eq_ok_iff.mpr ⟨first, [], read, rfl, rfl⟩
      obtain ⟨whole, after, goesOn, reads⟩ := complete_items each sofar stop
      refine ⟨whole, after, ?_, reads⟩
      rw [List.map_cons, intercalate_cons, List.append_assoc,
        value_list_open (begins.append _), laidOut, goesOn]

/-- The text of a member. -/
def textOfMember (entry : String × Json) : List Char :=
  (quoted entry.1).toList ++ ':' :: entry.2.text.toList

theorem begins_textOfMember (entry : String × Json) : Begins (textOfMember entry) := by
  rw [textOfMember, toList_quoted]
  exact ⟨'"', _, rfl, rfl, by decide, by decide⟩

/-- A member is laid out up to the end of its value. -/
theorem member_textOfMember {entry : String × Json} (back : ReadsBack room entry.2)
    (stack : List Frame) (start : Nat) (members : List (Key × Node)) (offset : Nat)
    (ends : EndsNumber rest) :
    ∃ key node stop, key.text = .ok entry.1 ∧ node.read room = .ok entry.2 ∧
      member start members stack ⟨offset, textOfMember entry ++ rest⟩ =
        complete (.object start members key :: stack) node ⟨stop, rest⟩ := by
  obtain ⟨key, after, named, atValue⟩ :=
    member_key stack start members entry.1 offset (entry.2.text.toList ++ rest)
  obtain ⟨node, stop, laidOut, read⟩ := back (.object start members key :: stack) after rest ends
  refine ⟨key, node, stop, named, read, ?_⟩
  rw [textOfMember, List.append_assoc, List.cons_append, atValue, laidOut]

/-- The object goes on behind a member and ends as an object of all members. -/
theorem complete_members {members : List (String × Json)} {done : List (Key × Node)} {key : Key}
    {node : Node} {values : List (String × Json)}
    (each : ∀ member ∈ members, ReadsBack room member.2)
    (before : Node.readMembers room ((key, node) :: done).reverse = .ok values) (offset : Nat) :
    ∃ whole stop,
      complete (.object start done key :: outer) node
          ⟨offset, textOfMore [','] (members.map textOfMember) ++ '}' :: rest⟩ =
        complete outer whole ⟨stop, rest⟩ ∧
      whole.read (room + 1) = .ok (.object (values ++ members)) := by
  induction members generalizing done key node values offset with
  | nil =>
      refine ⟨.object start ((key, node) :: done).reverse (.closed (offset + 1)), offset + 1,
        complete_object_closed, ?_⟩
      rw [List.append_nil]
      exact Node.read_object_eq_ok_iff.mpr ⟨room, values, offset + 1, rfl, before, rfl, rfl⟩
  | cons entry members ih =>
      rw [List.forall_mem_cons] at each
      obtain ⟨back, each⟩ := each
      obtain ⟨key', next, stop, named, read, laidOut⟩ :=
        member_textOfMember back outer start ((key, node) :: done) (offset + 1)
          (endsNumber_more [] _ '}' (by decide) rest)
      have sofar : Node.readMembers room ((key', next) :: (key, node) :: done).reverse =
          .ok (values ++ [entry]) := by
        rw [List.reverse_cons]
        exact Node.readMembers_concat before named read
      obtain ⟨whole, after, goesOn, reads⟩ := ih each sofar stop
      refine ⟨whole, after, ?_, ?_⟩
      · rw [← goesOn, ← laidOut,
          ← complete_object_comma ((begins_textOfMember entry).append _), ← List.append_assoc]
        rfl
      · rw [reads, List.append_assoc, List.singleton_append]

theorem readsBack_object {members : List (String × Json)}
    (each : ∀ member ∈ members, ReadsBack room member.2) :
    ReadsBack (room + 1) (.object members) := by
  intro stack offset rest _
  rw [Json.toList_text_object, List.cons_append, List.append_assoc, List.singleton_append]
  cases members with
  | nil =>
      refine ⟨.object offset [] (.closed (offset + 2)), offset + 2, ?_, rfl⟩
      rw [List.map_nil, List.intercalate_nil, List.nil_append,
        value_object (skipBlanks_of_begin rfl _ _), if_pos rfl]
  | cons entry members =>
      rw [List.forall_mem_cons] at each
      obtain ⟨back, each⟩ := each
      obtain ⟨key, node, stop, named, read, laidOut⟩ :=
        member_textOfMember back stack offset [] (offset + 1)
          (endsNumber_more [] _ '}' (by decide) rest)
      have sofar : Node.readMembers room [(key, node)].reverse = .ok [entry] :=
        Node.readMembers_cons_eq_ok_iff.mpr ⟨entry.1, entry.2, [], named, read, rfl, rfl⟩
      obtain ⟨whole, after, goesOn, reads⟩ := complete_members each sofar stop
      refine ⟨whole, after, ?_, reads⟩
      rw [List.map_cons, intercalate_cons, List.append_assoc]
      exact (value_object_open ((begins_textOfMember entry).append _)).trans
        (laidOut.trans goesOn)

end Document

/-! ## Readable values -/

namespace Json

variable {room : Nat} {json : Json}

theorem canonicalItems_eq_map (items : List Json) :
    canonicalItems items = items.map canonical := by
  induction items with
  | nil => rfl
  | cons first rest ih => rw [canonicalItems, ih, List.map_cons]

theorem canonicalMembers_eq_map (members : List (String × Json)) :
    canonicalMembers members = members.map fun member => (member.1, member.2.canonical) := by
  induction members with
  | nil => rfl
  | cons first rest ih => rw [canonicalMembers, ih, List.map_cons]

namespace Readable

theorem begins (readable : Readable room json) : Begins json.text.toList := by
  cases readable with
  | null => exact ⟨'n', _, rfl, rfl, by decide, by decide⟩
  | bool _ value =>
      cases value with
      | false => exact ⟨'f', _, rfl, rfl, by decide, by decide⟩
      | true => exact ⟨'t', _, rfl, rfl, by decide, by decide⟩
  | integer _ number =>
      obtain ⟨first, others, repr, starts⟩ := exists_repr_eq_cons number.value
      rw [text, JsonNumber.text]
      exact ⟨first, others, repr, starts.notBlank, starts.ne (by decide), starts.ne (by decide)⟩
  | string _ text =>
      rw [Json.text, toList_quoted]
      exact ⟨'"', _, rfl, rfl, by decide, by decide⟩
  | array each =>
      rw [toList_text_array]
      exact ⟨'[', _, rfl, rfl, by decide, by decide⟩
  | object names each =>
      rw [toList_text_object]
      exact ⟨'{', _, rfl, rfl, by decide, by decide⟩

/-- **The text of a readable value is laid out as a node that reads as the value**, wherever
it stands. -/
theorem readsBack (readable : Readable room json) : Document.ReadsBack room json := by
  induction readable with
  | null => exact Document.readsBack_null
  | bool _ value => exact Document.readsBack_bool value
  | integer _ number => exact Document.readsBack_integer number
  | string _ text => exact Document.readsBack_string text
  | array each ih =>
      exact Document.readsBack_array fun item listed => ⟨(each item listed).begins, ih item listed⟩
  | object names each ih => exact Document.readsBack_object ih

theorem nodup_of_mem_objects (readable : Readable room json) :
    ∀ members ∈ json.objects, (members.map Prod.fst).Nodup := by
  induction readable with
  | null => exact nofun
  | bool => exact nofun
  | integer => exact nofun
  | string => exact nofun
  | array each ih =>
      intro members inside
      rw [objects, objectsOfItems_eq_flatMap] at inside
      obtain ⟨item, listed, inItem⟩ := List.mem_flatMap.mp inside
      exact ih item listed members inItem
  | object names each ih =>
      intro members inside
      rw [objects, objectsOfMembers_eq_flatMap] at inside
      rcases List.mem_cons.mp inside with rfl | inside
      · exact names
      · obtain ⟨member, listed, inMember⟩ := List.mem_flatMap.mp inside
        exact ih member listed members inMember

theorem distinct_eq (readable : Readable room json) : json.distinct = json :=
  distinct_eq_self readable.nodup_of_mem_objects

theorem canonical_eq (readable : Readable room json) : json.canonical = json := by
  induction readable with
  | null => rfl
  | bool => rfl
  | integer => rfl
  | string => rfl
  | array each ih => rw [canonical, canonicalItems_eq_map, List.map_congr_left ih, List.map_id']
  | @object _ members names each ih =>
      have same : ∀ member ∈ members, (member.1, member.2.canonical) = member :=
        fun member listed => congrArg (Prod.mk member.1) (ih member listed)
      rw [canonical, canonicalMembers_eq_map, List.map_congr_left same, List.map_id']

end Readable

/-- **A readable value is what its text parses as.** -/
theorem parse_text (readable : Readable Node.nestingLimit json) : parse json.text = .ok json := by
  have ends : EndsNumber [] := ⟨nofun, nofun, nofun⟩
  obtain ⟨node, stop, laidOut, read⟩ := readable.readsBack [] 0 [] ends
  rw [List.append_nil, Document.complete] at laidOut
  have document : Document.ofText json.text = ⟨node, ⟨stop, []⟩⟩ := laidOut
  have whole : (Document.ofText json.text).read = .ok json := by
    rw [document, Document.read, read]
    rfl
  rw [parse, whole]
  exact congrArg Except.ok readable.distinct_eq

end Json

end GraphSelect
