import GraphSelect.Operation.Parameters
import GraphSelect.Proofs.Json.RoundTrip

/-!
# Decoding parameters

The parameters of an operation are read from left to right (`Parameters.decode?`): a name
goes up to the first colon, the value behind it is read by the reader of documents and
converted as it is after parsing (`Json.front?_of_parse`), and then there is a comma or the
closing parenthesis, behind which nothing may come.

Entries are legible when their names have no colon and their values can be read back
(`Parameters.Legible`). Quotes, commas and parentheses in names and strings do no harm: the
parameters that legible entries are written as decode to the entries
(`Parameters.decode?_segment`), so different entries are written in different ways
(`Parameters.segment_decodes`).
-/

set_option autoImplicit false

namespace GraphSelect

open Text Cursor Document

/-! ## The value at the front -/

/-- The value at the front of a text, read and converted, with the text behind it. -/
def Json.front? (chars : List Char) : Option (Json × List Char) :=
  let document := Document.value [] ⟨0, chars⟩
  match document.root.read Node.nestingLimit with
  | .ok value => some (value.distinct.canonical, document.after.rest)
  | .error _ => none

namespace Json

variable {json : Json} {chars rest : List Char}

theorem length_le_of_front? (found : front? chars = some (json, rest)) :
    rest.length ≤ chars.length := by
  have progress := Document.length_value_le [] ⟨0, chars⟩
  unfold front? at found
  simp only at found
  split at found
  · cases found
    exact progress
  · cases found

/-- Where a whole text parses, the value at its front is the one that is parsed, converted, and
only blanks are behind it. -/
theorem front?_of_parse {text : String} (parsed : parse text = .ok json) :
    ∃ rest, front? text.toList = some (json.canonical, rest) ∧
      rest.dropWhile Cursor.isBlank = [] := by
  have whole : ∃ value, (Document.ofText text).read = .ok value ∧ json = value.distinct := by
    rw [parse] at parsed
    split at parsed
    · next value read =>
        cases parsed
        exact ⟨value, read, rfl⟩
    · cases parsed
  obtain ⟨value, read, rfl⟩ := whole
  obtain ⟨_, rootRead, checked⟩ := bind_eq_ok_iff.mp read
  obtain ⟨_, ends, same⟩ := bind_eq_ok_iff.mp checked
  cases same
  refine ⟨(Document.ofText text).after.rest, ?_, ?_⟩
  · have root : (Document.value [] ⟨0, text.toList⟩).root.read Node.nestingLimit = .ok value :=
      rootRead
    rw [front?, root]
    rfl
  · unfold checkEnd at ends
    split at ends
    · next here => exact congrArg Cursor.rest here
    · cases ends

/-- A readable value is read from its text, and all of its text is taken. -/
theorem front?_text (readable : Readable Node.nestingLimit json) (ends : EndsNumber rest) :
    front? (json.text.toList ++ rest) = some (json, rest) := by
  obtain ⟨node, stop, laidOut, read⟩ := readable.readsBack [] 0 rest ends
  rw [Document.complete] at laidOut
  rw [front?, laidOut]
  simp only [read, readable.distinct_eq, readable.canonical_eq]

/-- The literal of a string is read whole, whatever comes next. -/
theorem front?_quoted (text : String) (rest : List Char) :
    front? ((quoted text).toList ++ rest) = some (.string text, rest) := by
  obtain ⟨stop, laidOut⟩ := Document.value_quoted [] text 0 rest
  rw [Document.complete] at laidOut
  rw [front?, laidOut]
  rfl

end Json

/-! ## Entries -/

namespace Parameters

/-- The entry at the front of a text, with the text behind it. -/
def frontPair? (chars : List Char) : Option ((String × Json) × List Char) :=
  match chars.dropWhile (· ≠ ':') with
  | ':' :: ' ' :: behind =>
    match Json.front? behind with
    | some (value, rest) => some ((.ofList (chars.takeWhile (· ≠ ':')), value), rest)
    | none => none
  | _ => none

theorem length_lt_of_frontPair? {chars rest : List Char} {entry : String × Json}
    (found : frontPair? chars = some (entry, rest)) : rest.length < chars.length := by
  unfold frontPair? at found
  split at found
  · rename_i behind colon
    have dropped : (chars.dropWhile (· ≠ ':')).length ≤ chars.length :=
      (List.dropWhile_sublist _).length_le
    rw [colon] at dropped
    split at found
    · rename_i value after read
      cases found
      have taken := Json.length_le_of_front? read
      simp only [List.length_cons] at dropped
      omega
    · cases found
  · cases found

/-- The entries of a text that ends with a parenthesis and nothing behind it. -/
def entries? (chars : List Char) : Option (List (String × Json)) :=
  match _found : frontPair? chars with
  | some (entry, [')']) => some [entry]
  | some (entry, ',' :: ' ' :: rest) => (entries? rest).map (entry :: ·)
  | _ => none
termination_by chars.length
decreasing_by
  have := length_lt_of_frontPair? _found
  simp only [List.length_cons] at this
  omega

/-- The entries that a text is read as: none when it is empty, and otherwise those in its
parentheses. -/
def decode? (text : String) : Option (List (String × Json)) :=
  match text.toList with
  | [] => some []
  | '(' :: rest => entries? rest
  | _ => none

/-- The names have no colon, and the values can be read back. -/
def Legible (entries : List (String × Json)) : Prop :=
  ∀ entry ∈ entries, ':' ∉ entry.1.toList ∧ entry.2.Readable Node.nestingLimit

section Decoding

variable {entry : String × Json} {entries : List (String × Json)} {rest : List Char}

theorem toList_entryText (entry : String × Json) :
    (entryText entry).toList = entry.1.toList ++ ':' :: ' ' :: entry.2.text.toList := by
  have separator : ": ".toList = [':', ' '] := rfl
  rw [entryText, String.toList_append, String.toList_append, separator, List.append_assoc]
  rfl

/-- An entry is read from its text, and all of its text is taken. -/
theorem frontPair?_entryText (noColon : ':' ∉ entry.1.toList)
    (readable : entry.2.Readable Node.nestingLimit) (ends : EndsNumber rest) :
    frontPair? ((entryText entry).toList ++ rest) = some (entry, rest) := by
  have inName : ∀ c ∈ entry.1.toList, decide (c ≠ ':') = true := by
    intro c listed
    exact decide_eq_true fun same => noColon (same ▸ listed)
  have text : (entryText entry).toList ++ rest =
      entry.1.toList ++ ':' :: ' ' :: (entry.2.text.toList ++ rest) := by
    rw [toList_entryText, List.append_assoc]
    rfl
  have name : ((entryText entry).toList ++ rest).takeWhile (· ≠ ':') = entry.1.toList := by
    rw [text, List.takeWhile_append_of_pos inName, List.takeWhile_cons_of_neg (by decide),
      List.append_nil]
  have behind : ((entryText entry).toList ++ rest).dropWhile (· ≠ ':') =
      ':' :: ' ' :: (entry.2.text.toList ++ rest) := by
    rw [text, List.dropWhile_append_of_pos inName, List.dropWhile_cons_of_neg (by decide)]
  rw [frontPair?, behind]
  simp only [Json.front?_text readable ends, name, String.ofList_toList]

theorem entries?_last {chars : List Char} (front : frontPair? chars = some (entry, [')'])) :
    entries? chars = some [entry] := by
  rw [entries?]
  split
  · next found =>
      rw [front] at found
      cases found
      rfl
  · next found =>
      rw [front] at found
      cases found
  · next last _ => exact absurd front (last entry)

theorem entries?_comma {chars : List Char}
    (front : frontPair? chars = some (entry, ',' :: ' ' :: rest)) :
    entries? chars = (entries? rest).map (entry :: ·) := by
  rw [entries?]
  split
  · next found =>
      rw [front] at found
      cases found
  · next found =>
      rw [front] at found
      cases found
      rfl
  · next comma => exact absurd front (comma entry rest)

/-- The text of further entries, up to the closing parenthesis. -/
def closingText (entries : List (String × Json)) : List Char :=
  textOfMore [',', ' '] (entries.map fun entry => (entryText entry).toList) ++ [')']

theorem closingText_cons : closingText (entry :: entries) =
    ',' :: ' ' :: ((entryText entry).toList ++ closingText entries) := by
  rw [closingText, closingText, List.map_cons, textOfMore, textOfMore, List.flatMap_cons,
    ← List.append_assoc]
  rfl

theorem endsNumber_closingText (entries : List (String × Json)) :
    EndsNumber (closingText entries) := endsNumber_more [' '] _ ')' (by decide) []

/-- Entries with commas between them are read one by one, up to the parenthesis. -/
theorem entries?_closingText (legible : Legible (entry :: entries)) :
    entries? ((entryText entry).toList ++ closingText entries) = some (entry :: entries) := by
  induction entries generalizing entry with
  | nil =>
      obtain ⟨noColon, readable⟩ := legible entry List.mem_cons_self
      exact entries?_last (frontPair?_entryText noColon readable (endsNumber_closingText []))
  | cons next others ih =>
      obtain ⟨noColon, readable⟩ := legible entry List.mem_cons_self
      have further : Legible (next :: others) := fun entry listed =>
        legible entry (List.mem_cons_of_mem _ listed)
      have front := frontPair?_entryText noColon readable
        (endsNumber_closingText (next :: others))
      rw [closingText_cons] at front ⊢
      rw [entries?_comma front, ih further, Option.map_some]

theorem toList_segment (entry : String × Json) (entries : List (String × Json)) :
    (segment (.entries (entry :: entries))).toList =
      '(' :: ((entryText entry).toList ++ closingText entries) := by
  have opening : "(".toList = ['('] := rfl
  have closing : ")".toList = [')'] := rfl
  have comma : ", ".toList = [',', ' '] := rfl
  have written : segment (.entries (entry :: entries)) =
      "(" ++ ", ".intercalate ((entry :: entries).map entryText) ++ ")" := rfl
  rw [written, String.toList_append, String.toList_append, String.toList_intercalate, opening,
    closing, comma, List.map_map, List.map_cons, intercalate_cons, List.append_assoc,
    List.append_assoc, List.singleton_append]
  rfl

/-- **The parameters that legible entries are written as decode to the entries.** -/
theorem decode?_segment (legible : Legible entries) :
    decode? (segment (.entries entries)) = some entries := by
  cases entries with
  | nil => rfl
  | cons entry entries =>
      rw [decode?, toList_segment]
      exact entries?_closingText legible

/-- **Parameters can be decoded.** Legible entries are what their text is read as, no other
legible entries have this text, and a string is read whole and ends with its literal, whatever
comes next. -/
theorem segment_decodes (legible : Legible entries) :
    decode? (segment (.entries entries)) = some entries ∧
      (∀ others, Legible others →
        segment (.entries others) = segment (.entries entries) → others = entries) ∧
      ∀ text rest, Json.front? ((quoted text).toList ++ rest) = some (.string text, rest) := by
  have decoded := decode?_segment legible
  refine ⟨decoded, ?_, Json.front?_quoted⟩
  intro others othersLegible same
  have decodedOthers := decode?_segment othersLegible
  rw [same, decoded] at decodedOthers
  exact (Option.some.inj decodedOthers).symm

end Decoding

/-- Entries whose names and strings are full of the punctuation of parameters. -/
def punctuatedEntries : List (String × Json) :=
  [("id, (x)", .string "\"), b: 1, \\\n\x01\x7b"),
    ("", .object [("a: \"b\"", .array [.null, .bool true, .object []]), (")", .string ", c: [")]),
    ("least", .number (.integer ⟨-0x8000000000000000, by decide, by decide⟩)),
    ("greatest", .number (.integer ⟨0xFFFFFFFFFFFFFFFF, by decide, by decide⟩))]

theorem legible_punctuatedEntries : Legible punctuatedEntries := by
  have list : Json.Readable 126 (.array [.null, .bool true, .object []]) := by
    apply Json.Readable.array
    simp only [List.forall_mem_cons]
    exact ⟨.null _, .bool _ true, .object List.nodup_nil nofun, nofun⟩
  have nested : Json.Readable Node.nestingLimit (.object [("a: \"b\"",
      .array [.null, .bool true, .object []]), (")", .string ", c: [")]) := by
    apply Json.Readable.object (by decide)
    simp only [List.forall_mem_cons]
    exact ⟨list, .string _ _, nofun⟩
  simp only [Legible, punctuatedEntries, List.forall_mem_cons]
  exact ⟨⟨by decide, .string _ _⟩, ⟨by decide, nested⟩, ⟨by decide, .integer _ _⟩,
    ⟨by decide, .integer _ _⟩, nofun⟩

theorem segment_decodes_punctuated :
    Legible punctuatedEntries ∧
      decode? (segment (.entries punctuatedEntries)) = some punctuatedEntries ∧
      segment (.entries punctuatedEntries.reverse) ≠ segment (.entries punctuatedEntries) := by
  have legible := legible_punctuatedEntries
  have reversed : Legible punctuatedEntries.reverse := fun entry listed =>
    legible entry (List.mem_reverse.mp listed)
  obtain ⟨decoded, unique, -⟩ := segment_decodes legible
  exact ⟨legible, decoded, fun same => absurd (unique _ reversed same) (by decide)⟩

end Parameters

end GraphSelect
