import GraphSelect.Json.Fault
import GraphSelect.Selector.Basic

/-!
# Selector drafts

A draft is a selector as it is spelled in JSON. The tag and the keys of its
relationships and its field names may be any values. `Selector.ofDraft` keeps the
strings among them: a relationship without a string for a key lacks that key, and
a field name that is no string is dropped.

`DraftRelationship.ofJson` reads a relationship from a value, with everything
below it. A null stands for nothing everywhere. Members that are not known are
ignored, and a known one that is given twice is an error.
-/

set_option autoImplicit false

namespace GraphSelect

/-- The part of a selector that holds its field names. -/
structure DraftMetadata where
  fields : Option (List Json) := none

mutual

/-- A selector as it is spelled. -/
structure Draft where
  relationships : Option (List DraftRelationship) := none
  metadata : Option DraftMetadata := none

/-- A relationship as it is spelled, with the selector of its target. -/
structure DraftRelationship where
  tag : Option Json := none
  keyId : Option Json := none
  keyValue : Option Json := none
  target : Draft

end

/-! ## Member names -/

namespace Draft

/-- The member with the relationships of a selector. -/
def relationshipsName : String := "relationships"

/-- The member with the metadata of a selector. -/
def metadataName : String := "meta"

end Draft

/-- The member with the field names. -/
def DraftMetadata.fieldsName : String := "gqlFields"

namespace DraftRelationship

/-- The member with the tag of a relationship. -/
def tagName : String := "ngrxEntityRelationship"

/-- The member with the identifier of a relationship. -/
def keyIdName : String := "keyId"

/-- The member with the field of a relationship. -/
def keyValueName : String := "keyValue"

/-- The members that belong to a relationship itself and not to its target. -/
def ownNames : List String := [tagName, keyIdName, keyValueName]

end DraftRelationship

/-! ## From values -/

/-- The field names of a value. -/
def DraftMetadata.fieldsOfJson : Json → Except JsonFault (Option (List Json))
  | .null => .ok none
  | .array items => .ok (some (items.map Json.distinct))
  | json => .error (.wrongType json.found .sequence)

/-- The field names among the members that follow, after the ones that were found. -/
def DraftMetadata.ofMembers (found : Option (Option (List Json))) :
    List (String × Json) → Except JsonFault DraftMetadata
  | [] => .ok ⟨found.join⟩
  | (name, value) :: rest =>
    if name = fieldsName then
      if found.isSome then .error (.duplicateField name)
      else do
        let fields ← fieldsOfJson value
        ofMembers (some fields) rest
    else
      ofMembers found rest

/-- The metadata of a value. A list gives the field names as its only element. -/
def DraftMetadata.ofJson : Json → Except JsonFault (Option DraftMetadata)
  | .null => .ok none
  | .array [] => .ok (some {})
  | .array (first :: rest) => do
    let fields ← fieldsOfJson first
    if rest.isEmpty then return some ⟨fields⟩
    else throw (.tooLong (rest.length + 1))
  | .object members => some <$> ofMembers none members
  | json => .error (.wrongType json.found .metadata)

namespace DraftRelationship

/-- The value of an own member. A null counts as none. -/
def own (name : String) (members : List (String × Json)) : Option Json :=
  match Members.get? name members with
  | none => none
  | some .null => none
  | some value => some value.distinct

/-- The relationship with its own members from the given ones. -/
def assemble (members : List (String × Json)) (target : Draft) : DraftRelationship :=
  ⟨own tagName members, own keyIdName members, own keyValueName members, target⟩

/-- No own member is given twice. -/
def checkOwn (seen : List String) : List (String × Json) → Except JsonFault Unit
  | [] => .ok ()
  | (name, _) :: rest =>
    if name ∈ ownNames then
      if name ∈ seen then .error (.duplicateField name) else checkOwn (name :: seen) rest
    else
      checkOwn seen rest

end DraftRelationship

mutual

/-- The relationship of a value. -/
def DraftRelationship.ofJson : Json → Except JsonFault DraftRelationship
  | .object members => do
    DraftRelationship.checkOwn [] members
    let target ← Draft.ofMembers none none members
    return DraftRelationship.assemble members target
  | json => .error (.wrongType json.found .relationship)

/-- The relationships of the values, in order. -/
def DraftRelationship.ofItems : List Json → Except JsonFault (List DraftRelationship)
  | [] => .ok []
  | first :: rest => do
    let relationship ← DraftRelationship.ofJson first
    let relationships ← DraftRelationship.ofItems rest
    return relationship :: relationships

/-- The relationships of a value that is a list or null. -/
def Draft.relationshipsOfJson : Json → Except JsonFault (Option (List DraftRelationship))
  | .null => .ok none
  | .array items => some <$> DraftRelationship.ofItems items
  | json => .error (.wrongType json.found .sequence)

/-- The selector in the members that follow, after the parts that were found. -/
def Draft.ofMembers (relationships : Option (Option (List DraftRelationship)))
    (metadata : Option (Option DraftMetadata)) :
    List (String × Json) → Except JsonFault Draft
  | [] => .ok ⟨relationships.join, metadata.join⟩
  | (name, value) :: rest =>
    if name = Draft.relationshipsName then
      if relationships.isSome then .error (.duplicateField name)
      else do
        let found ← Draft.relationshipsOfJson value
        Draft.ofMembers (some found) metadata rest
    else if name = Draft.metadataName then
      if metadata.isSome then .error (.duplicateField name)
      else do
        let found ← DraftMetadata.ofJson value
        Draft.ofMembers relationships (some found) rest
    else
      Draft.ofMembers relationships metadata rest

end

/-! ## To selectors -/

/-- The string that a member holds, if it holds one. -/
def stringOf (member : Option Json) : Option String := member.bind Json.string?

/-- The field names that are strings, in order. -/
def fieldNames (metadata : Option DraftMetadata) : List String :=
  ((metadata.bind DraftMetadata.fields).getD []).filterMap Json.string?

mutual

/-- The selector of a draft. -/
def Selector.ofDraft : Draft → Selector
  | ⟨none, metadata⟩ => ⟨[], fieldNames metadata⟩
  | ⟨some relationships, metadata⟩ => ⟨Relationship.ofDrafts relationships, fieldNames metadata⟩

/-- The relationship of a draft. -/
def Relationship.ofDraft : DraftRelationship → Relationship
  | ⟨tag, keyId, keyValue, target⟩ =>
    ⟨.ofTag (stringOf tag), stringOf keyId, stringOf keyValue, Selector.ofDraft target⟩

/-- The relationships of drafts, in order. -/
def Relationship.ofDrafts : List DraftRelationship → List Relationship
  | [] => []
  | first :: rest => Relationship.ofDraft first :: Relationship.ofDrafts rest

end

end GraphSelect
