import GraphSelect.Json.Document
import GraphSelect.Selector.Draft

/-!
# Reading selectors

A selector is read from the tree of its document. The root is an object, or a list
with the relationships and the metadata. Members of the root and of its metadata
that are not known are only skimmed. The members of a relationship are all read,
and what they hold is looked at only when the relationship has ended
(`DraftRelationship.ofJson`). That is where a fault below it is reported.

`Selector.parse` reads the selector of a text.
-/

set_option autoImplicit false

namespace GraphSelect

/-- What is found where something else is expected. A scalar is reported after it,
and a container before its bracket. -/
def Node.unexpected {α : Type} (expected : Expectation) : Node → Except Failure α
  | .scalar _ stop value => .error ⟨.wrongType value.found expected, stop⟩
  | .unreadable _ failure => .error failure
  | .broken _ reading _ => .error reading
  | .list start .. => .error ⟨.wrongType .sequence expected, start⟩
  | .object start .. => .error ⟨.wrongType .map expected, start⟩

/-- The end of a list that gives one element for each field, once all of them have
been read. More elements are something that trails. -/
def Ending.finish (more : List Node) (ending : Ending) : Except Failure Unit :=
  match more, ending with
  | next :: _, _ => .error ⟨.trailingCharacters, next.start + 1⟩
  | [], .separatorMissing offset => .error ⟨.trailingCharacters, offset⟩
  | [], .commaThenTextEnds offset => .error ⟨.trailingCharacters, offset⟩
  | [], ending => (ending.read .list).map fun _ => ()

/-! ## Metadata -/

namespace DraftMetadata

/-- The field names of a node. -/
def fieldsOfNode (room : Nat) : Node → Except Failure (Option (List Json))
  | .scalar _ _ .null => .ok none
  | .list start items ending => do
    let inner ← Node.enter start room
    let values ← Node.readItems inner items
    let _ ← ending.read .list
    return some (values.map Json.distinct)
  | node => node.unexpected .sequence

/-- The field names among the members that follow, after the ones that were found. -/
def ofNodeMembers (room : Nat) (found : Option (Option (List Json))) :
    List (Key × Node) → Except Failure DraftMetadata
  | [] => .ok ⟨found.join⟩
  | (key, node) :: rest => do
    let name ← key.text
    if name = fieldsName then
      if found.isSome then throw ⟨.duplicateField name, key.settled⟩
      let fields ← fieldsOfNode room node
      ofNodeMembers room (some fields) rest
    else
      node.skim
      ofNodeMembers room found rest

/-- The metadata of a node. -/
def ofNode (room : Nat) : Node → Except Failure (Option DraftMetadata)
  | .scalar _ _ .null => .ok none
  | .list start items ending => do
    let inner ← Node.enter start room
    match items with
    | [] =>
      let _ ← ending.read .list
      return some {}
    | first :: more =>
      let fields ← fieldsOfNode inner first
      ending.finish more
      return some ⟨fields⟩
  | .object start members ending => do
    let inner ← Node.enter start room
    let metadata ← ofNodeMembers inner none members
    let _ ← ending.read .object
    return some metadata
  | node => node.unexpected .metadata

end DraftMetadata

/-! ## Relationships -/

namespace DraftRelationship

/-- The members of a relationship as they are spelled. An own member that is given
twice is reported at its second key. -/
def readMembers (room : Nat) (seen : List String) :
    List (Key × Node) → Except Failure (List (String × Json))
  | [] => .ok []
  | (key, node) :: rest => do
    let name ← key.text
    if name ∈ ownNames ∧ name ∈ seen then
      throw ⟨.duplicateField name, key.settled⟩
    let value ← node.read room
    let members ← readMembers room (name :: seen) rest
    return (name, value) :: members

/-- The relationship of a node. -/
def ofNode (room : Nat) : Node → Except Failure DraftRelationship
  | .object start members ending => do
    let inner ← Node.enter start room
    let members ← readMembers inner [] members
    let stop ← ending.read .object
    match ofJson (.object members) with
    | .ok relationship => return relationship
    | .error fault => throw ⟨fault, stop⟩
  | node => node.unexpected .relationship

end DraftRelationship

/-! ## Selectors -/

namespace Draft

/-- The relationships of a node. -/
def relationshipsOfNode (room : Nat) : Node → Except Failure (Option (List DraftRelationship))
  | .scalar _ _ .null => .ok none
  | .list start items ending => do
    let inner ← Node.enter start room
    let relationships ← items.mapM (DraftRelationship.ofNode inner)
    let _ ← ending.read .list
    return some relationships
  | node => node.unexpected .sequence

/-- The selector in the members that follow, after the parts that were found. -/
def ofNodeMembers (room : Nat) (relationships : Option (Option (List DraftRelationship)))
    (metadata : Option (Option DraftMetadata)) : List (Key × Node) → Except Failure Draft
  | [] => .ok ⟨relationships.join, metadata.join⟩
  | (key, node) :: rest => do
    let name ← key.text
    if name = relationshipsName then
      if relationships.isSome then throw ⟨.duplicateField name, key.settled⟩
      let found ← relationshipsOfNode room node
      ofNodeMembers room (some found) metadata rest
    else if name = metadataName then
      if metadata.isSome then throw ⟨.duplicateField name, key.settled⟩
      let found ← DraftMetadata.ofNode room node
      ofNodeMembers room relationships (some found) rest
    else
      node.skim
      ofNodeMembers room relationships metadata rest

/-- The selector of a node. -/
def ofNode (room : Nat) : Node → Except Failure Draft
  | .list start items ending => do
    let inner ← Node.enter start room
    match items with
    | [] =>
      let _ ← ending.read .list
      return {}
    | [first] =>
      let relationships ← relationshipsOfNode inner first
      let _ ← ending.read .list
      return { relationships }
    | first :: second :: more =>
      let relationships ← relationshipsOfNode inner first
      let metadata ← DraftMetadata.ofNode inner second
      ending.finish more
      return { relationships, metadata }
  | .object start members ending => do
    let inner ← Node.enter start room
    let draft ← ofNodeMembers inner none none members
    let _ ← ending.read .object
    return draft
  | node => node.unexpected .selector

/-- The selector of a document. -/
def ofDocument (document : Document) : Except Failure Draft := do
  let draft ← ofNode Node.nestingLimit document.root
  document.checkEnd
  return draft

/-- The selector that a text spells. -/
def parse (text : String) : Except JsonError Draft :=
  (ofDocument (.ofText text)).mapError fun failure => failure.error text

end Draft

/-- The selector of a text. -/
def Selector.parse (text : String) : Except JsonError Selector :=
  (Draft.parse text).map Selector.ofDraft

end GraphSelect
