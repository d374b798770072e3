import GraphSelect.Proofs.Json.Members
import GraphSelect.Selector.Basic

/-!
# The selector that a value describes

A value describes a selector when it is an object whose relationships and metadata have
the form that `Json.DescribesSelector` states, at every depth. Its selector
(`Selector.ofJson`) is made of the members that are known, wherever they stand.

`Json.Rearranged` relates values that differ in the order of members and in members that
are not known. They describe the same selector (`Json.Rearranged.alike`).
-/

set_option autoImplicit false

namespace GraphSelect

namespace Json

/-! ## The known members -/

/-- The value is a list. -/
def isArray : Json → Bool
  | array _ => true
  | _ => false

/-- The value of a member, when the value is an object that has it. -/
def member? (name : String) : Json → Option Json
  | object members => Members.get? name members
  | _ => none

/-- The text of a member that is a string. -/
def memberText? (name : String) (json : Json) : Option String :=
  (json.member? name).bind string?

/-- The items where a list may stand. What is absent or null has none; anything else that
is no list is out of place. -/
def listed? : Option Json → Option (List Json)
  | none => some []
  | some null => some []
  | some (array items) => some items
  | some _ => none

/-- The relationships of an object, when they are of the right form. -/
def relationshipItems? : Json → Option (List Json)
  | object members => listed? (Members.get? "relationships" members)
  | _ => none

/-- The field names in the metadata, when the metadata are of the right form: absent, null,
or an object. -/
def metadataItems? : Option Json → Option (List Json)
  | none => some []
  | some null => some []
  | some (object members) => listed? (Members.get? "gqlFields" members)
  | some _ => none

/-- The field names of an object, when its metadata are of the right form. -/
def fieldItems? : Json → Option (List Json)
  | object members => metadataItems? (Members.get? "meta" members)
  | _ => none

/-- The kind of relationship that an object names. -/
def relationshipKind (json : Json) : RelationshipKind :=
  match json.memberText? "ngrxEntityRelationship" with
  | some "childrenEntities" => .childrenEntities
  | some "childEntity" => .childEntity
  | _ => .associative

/-! ## The form of a selector -/

/-- The value is an object whose relationships are absent, null or a list of values of the
same form, and whose metadata are absent, null or an object in which the field names are
absent, null or a list. -/
inductive DescribesSelector : Json → Prop where
  | node {json : Json} {items fields : List Json}
      (relationships : json.relationshipItems? = some items)
      (metadata : json.fieldItems? = some fields)
      (inside : ∀ item ∈ items, DescribesSelector item) : DescribesSelector json

theorem describesSelector_iff {json : Json} :
    json.DescribesSelector ↔ (∃ items, json.relationshipItems? = some items ∧
      ∀ item ∈ items, item.DescribesSelector) ∧ ∃ fields, json.fieldItems? = some fields := by
  constructor
  · intro describes
    cases describes with
    | node relationships metadata inside => exact ⟨⟨_, relationships, inside⟩, _, metadata⟩
  · rintro ⟨⟨items, relationships, inside⟩, fields, metadata⟩
    exact .node relationships metadata inside

theorem DescribesSelector.eq_object {json : Json} (describes : json.DescribesSelector) :
    ∃ members, json = object members := by
  cases describes with
  | node relationships =>
      unfold relationshipItems? at relationships
      split at relationships
      · exact ⟨_, rfl⟩
      · cases relationships

/-- A relationship is smaller than the object that has it. -/
theorem sizeOf_relationshipItem_lt {json item : Json}
    (listed : item ∈ json.relationshipItems?.getD []) : sizeOf item < sizeOf json := by
  unfold relationshipItems? at listed
  split at listed
  · next members =>
      unfold listed? at listed
      split at listed
      · cases listed
      · cases listed
      · next items found =>
          have inList := List.sizeOf_lt_of_mem listed
          have inMembers := sizeOf_value_lt (Members.mem_of_get?_eq_some found)
          simp only [array.sizeOf_spec, object.sizeOf_spec, Option.getD_some] at *
          omega
      · cases listed
  · cases listed

end Json

/-! ## The selector of a value -/

/-- The selector that a value describes: its relationships in order, each with the kind,
the keys and the selector of its value; and the strings among its field names. -/
def Selector.ofJson (json : Json) : Selector :=
  ⟨(json.relationshipItems?.getD []).attach.map fun item =>
      ⟨item.1.relationshipKind, item.1.memberText? "keyId", item.1.memberText? "keyValue",
        Selector.ofJson item.1⟩,
    (json.fieldItems?.getD []).filterMap Json.string?⟩
termination_by sizeOf json
decreasing_by exact Json.sizeOf_relationshipItem_lt item.2

/-- The relationship that a value describes. -/
def Relationship.ofJson (json : Json) : Relationship :=
  ⟨json.relationshipKind, json.memberText? "keyId", json.memberText? "keyValue",
    Selector.ofJson json⟩

theorem Selector.ofJson_eq (json : Json) :
    Selector.ofJson json =
      ⟨(json.relationshipItems?.getD []).map Relationship.ofJson,
        (json.fieldItems?.getD []).filterMap Json.string?⟩ := by
  rw [Selector.ofJson]
  exact congrArg (Selector.mk · _) (List.attach_map_val (f := Relationship.ofJson))

/-! ## Order and other members -/

namespace Json

/-- The parts of a selector that are objects. -/
inductive Part where
  | selector
  | relationship
  | metadata

/-- The members that are known in a part. -/
def Part.names : Part → List String
  | selector => ["relationships", "meta"]
  | relationship =>
    ["ngrxEntityRelationship", "keyId", "keyValue", "relationships", "meta"]
  | metadata => ["gqlFields"]

/-- Two values that are the same part but for the order of members and for members that
are not known, in the part itself, in its metadata and in its relationships. -/
inductive Rearranged : Part → Json → Json → Prop where
  | refl {part : Part} (json : Json) : Rearranged part json json
  | symm {part : Part} {left right : Json} :
      Rearranged part left right → Rearranged part right left
  | trans {part : Part} {first second third : Json} :
      Rearranged part first second → Rearranged part second third →
        Rearranged part first third
  | order {part : Part} {members members' : List (String × Json)}
      (names : (members.map Prod.fst).Nodup) (perm : members.Perm members') :
      Rearranged part (.object members) (.object members')
  | unknown {part : Part} {name : String} (before after : List (String × Json)) (value : Json)
      (other : name ∉ part.names) :
      Rearranged part (.object (before ++ after)) (.object (before ++ (name, value) :: after))
  | metadata {part : Part} {value value' : Json} (before after : List (String × Json))
      (inside : Rearranged .metadata value value') :
      Rearranged part (.object (before ++ ("meta", value) :: after))
        (.object (before ++ ("meta", value') :: after))
  | relationship {part : Part} {item item' : Json} (before after : List (String × Json))
      (earlier later : List Json) (inside : Rearranged .relationship item item') :
      Rearranged part
        (.object (before ++ ("relationships", .array (earlier ++ item :: later)) :: after))
        (.object (before ++ ("relationships", .array (earlier ++ item' :: later)) :: after))

/-- Two values that say the same as a part. -/
def Part.Alike : Part → Json → Json → Prop
  | selector, left, right =>
    (left.DescribesSelector ↔ right.DescribesSelector) ∧
      Selector.ofJson left = Selector.ofJson right
  | relationship, left, right =>
    (left.DescribesSelector ↔ right.DescribesSelector) ∧
      Relationship.ofJson left = Relationship.ofJson right
  | metadata, left, right => metadataItems? (some left) = metadataItems? (some right)

namespace Part

theorem Alike.refl {part : Part} (json : Json) : part.Alike json json := by
  cases part with
  | selector => exact ⟨Iff.rfl, rfl⟩
  | relationship => exact ⟨Iff.rfl, rfl⟩
  | metadata => exact (rfl : _ = _)

theorem Alike.symm {part : Part} {left right : Json} (alike : part.Alike left right) :
    part.Alike right left := by
  cases part with
  | selector => exact ⟨alike.1.symm, alike.2.symm⟩
  | relationship => exact ⟨alike.1.symm, alike.2.symm⟩
  | metadata => exact Eq.symm alike

theorem Alike.trans {part : Part} {first second third : Json} (alike : part.Alike first second)
    (alike' : part.Alike second third) : part.Alike first third := by
  cases part with
  | selector => exact ⟨alike.1.trans alike'.1, alike.2.trans alike'.2⟩
  | relationship => exact ⟨alike.1.trans alike'.1, alike.2.trans alike'.2⟩
  | metadata => exact Eq.trans alike alike'

end Part

/-- Relationships that are alike one by one. -/
theorem alike_items {items items' : List Json}
    (alike : List.Forall₂ Part.relationship.Alike items items') :
    ((∀ item ∈ items, item.DescribesSelector) ↔ ∀ item ∈ items', item.DescribesSelector) ∧
      items.map Relationship.ofJson = items'.map Relationship.ofJson := by
  induction alike with
  | nil => exact ⟨Iff.rfl, rfl⟩
  | cons first rest ih =>
      simp only [List.forall_mem_cons, List.map_cons, first.1, first.2, ih.1, ih.2, and_self]

theorem alike_listed {items items' : Option (List Json)}
    (alike : Option.Rel (List.Forall₂ Part.relationship.Alike) items items') :
    ((∃ list, items = some list ∧ ∀ item ∈ list, item.DescribesSelector) ↔
        ∃ list, items' = some list ∧ ∀ item ∈ list, item.DescribesSelector) ∧
      (items.getD []).map Relationship.ofJson = (items'.getD []).map Relationship.ofJson := by
  cases alike with
  | none => exact ⟨Iff.rfl, rfl⟩
  | some alike =>
      simpa only [Option.some.injEq, exists_eq_left', Option.getD_some] using alike_items alike

/-- Objects describe alike selectors when their relationships and metadata are alike. -/
theorem alike_object_selector {members members' : List (String × Json)}
    (relationships : Option.Rel (List.Forall₂ Part.relationship.Alike)
      (listed? (Members.get? "relationships" members))
      (listed? (Members.get? "relationships" members')))
    (metadata : metadataItems? (Members.get? "meta" members) =
      metadataItems? (Members.get? "meta" members')) :
    Part.selector.Alike (.object members) (.object members') := by
  have fields : (object members).fieldItems? = (object members').fieldItems? := metadata
  have items := @alike_listed (object members).relationshipItems?
    (object members').relationshipItems? relationships
  exact ⟨by rw [describesSelector_iff, describesSelector_iff, items.1, fields, relationshipItems?],
    by rw [Selector.ofJson_eq, Selector.ofJson_eq, items.2, fields, relationshipItems?]⟩

/-- Objects are alike when their known members are. -/
theorem Part.alike_object {part : Part} {members members' : List (String × Json)}
    (relationships : "relationships" ∈ part.names →
      Option.Rel (List.Forall₂ Part.relationship.Alike)
        (listed? (Members.get? "relationships" members))
        (listed? (Members.get? "relationships" members')))
    (metadata : "meta" ∈ part.names → metadataItems? (Members.get? "meta" members) =
      metadataItems? (Members.get? "meta" members'))
    (others : ∀ name ∈ part.names, name ≠ "relationships" → name ≠ "meta" →
      Members.get? name members = Members.get? name members') :
    part.Alike (.object members) (.object members') := by
  cases part with
  | selector => exact alike_object_selector (relationships (by decide)) (metadata (by decide))
  | relationship =>
      have same := alike_object_selector (relationships (by decide)) (metadata (by decide))
      have tag := others "ngrxEntityRelationship" (by decide) (by decide) (by decide)
      have keyId := others "keyId" (by decide) (by decide) (by decide)
      have keyValue := others "keyValue" (by decide) (by decide) (by decide)
      refine ⟨same.1, ?_⟩
      simp only [Relationship.ofJson, relationshipKind, memberText?, member?, tag, keyId,
        keyValue, same.2]
  | metadata =>
      exact congrArg listed? (others "gqlFields" (by decide) (by decide) (by decide))

theorem forall₂_alike_self (items : List Json) :
    List.Forall₂ Part.relationship.Alike items items :=
  List.forall₂_same.mpr fun item _ => .refl item

theorem alike_listed_self (items : Option (List Json)) :
    Option.Rel (List.Forall₂ Part.relationship.Alike) items items := by
  cases items with
  | none => exact .none
  | some items => exact .some (forall₂_alike_self items)

/-- **Rearranged values say the same.** -/
theorem Rearranged.alike {part : Part} {left right : Json}
    (rearranged : Rearranged part left right) : part.Alike left right := by
  induction rearranged with
  | refl json => exact .refl json
  | symm _ ih => exact ih.symm
  | trans _ _ ih ih' => exact ih.trans ih'
  | @order part members members' names perm =>
      have same (name : String) : Members.get? name members = Members.get? name members' :=
        Members.get?_perm names perm
      refine Part.alike_object (fun _ => ?_) (fun _ => by rw [same]) fun name _ _ _ => same name
      rw [same]
      exact alike_listed_self _
  | @unknown part other before after value unknown =>
      have same {name : String} (known : name ∈ part.names) :
          Members.get? name (before ++ after) =
            Members.get? name (before ++ (other, value) :: after) :=
        (Members.get?_middle_of_ne fun clash => unknown (by rwa [clash])).symm
      refine Part.alike_object (fun known => ?_) (fun known => by rw [same known])
        fun name known _ _ => same known
      rw [same known]
      exact alike_listed_self _
  | @metadata part value value' before after _ ih =>
      have same {name : String} (differs : "meta" ≠ name) :
          Members.get? name (before ++ ("meta", value) :: after) =
            Members.get? name (before ++ ("meta", value') :: after) := by
        rw [Members.get?_middle_of_ne differs, Members.get?_middle_of_ne differs]
      refine Part.alike_object (fun _ => ?_) (fun _ => ?_) fun name _ _ differs =>
        same differs.symm
      · rw [same (by decide)]
        exact alike_listed_self _
      · rw [Members.get?_middle_self, Members.get?_middle_self]
        cases Members.get? "meta" before with
        | none => exact ih
        | some found => rfl
  | @relationship part item item' before after earlier later _ ih =>
      have same {name : String} (differs : "relationships" ≠ name) :
          Members.get? name
              (before ++ ("relationships", .array (earlier ++ item :: later)) :: after) =
            Members.get? name
              (before ++ ("relationships", .array (earlier ++ item' :: later)) :: after) := by
        rw [Members.get?_middle_of_ne differs, Members.get?_middle_of_ne differs]
      refine Part.alike_object (fun _ => ?_) (fun _ => by rw [same (by decide)])
        fun name _ differs _ => same differs.symm
      rw [Members.get?_middle_self, Members.get?_middle_self]
      cases Members.get? "relationships" before with
      | none =>
          exact .some (List.rel_append (forall₂_alike_self earlier)
            (.cons ih (forall₂_alike_self later)))
      | some found => exact alike_listed_self _

end Json

end GraphSelect
