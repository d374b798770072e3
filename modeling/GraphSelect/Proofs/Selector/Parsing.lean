import GraphSelect.Proofs.Selector.Conversion
import GraphSelect.Proofs.Selector.Reading

/-!
# Parsing selectors

A value is regular when no object in it repeats a member name and no metadata in it are a
list. The selector of a text with a regular value is parsed exactly when the value
describes a selector, and it is the selector of the value (`Selector.parse_exact`). The
order of members and members that are not known make no difference.
-/

set_option autoImplicit false

namespace GraphSelect

/-- No object in the value repeats a member name, and no member with metadata is a list. -/
structure Json.Regular (json : Json) : Prop where
  names : ∀ members ∈ json.objects, (members.map Prod.fst).Nodup
  metadata : ∀ members ∈ json.objects, ∀ member ∈ members, member.1 = "meta" →
    member.2.isArray = false

/-- The relationships of a regular value are regular. -/
theorem Json.Regular.item {members : List (String × Json)} {items : List Json} {item : Json}
    (regular : (Json.object members).Regular)
    (found : Members.get? "relationships" members = some (.array items))
    (listed : item ∈ items) : item.Regular := by
  have inside {inner : List (String × Json)} (inItem : inner ∈ item.objects) :
      inner ∈ (Json.object members).objects :=
    Json.mem_objects_object (Members.mem_of_get?_eq_some found)
      (Json.mem_objects_array listed inItem)
  exact ⟨fun inner inItem => regular.names inner (inside inItem),
    fun inner inItem => regular.metadata inner (inside inItem)⟩

/-! ## Parts of a draft -/

/-- What a part of a draft is: what was found of it or, failing that, what is read in its
place. -/
def Draft.resolve {α : Type} (found : Option (Option α)) (place : Option Json)
    (read : Json → Except JsonFault (Option α)) : Option (Option α) :=
  match found, place with
  | some found, _ => some found
  | none, none => some none
  | none, some value => (read value).toOption

@[simp] theorem Draft.resolve_none_some {α : Type} {read : Json → Except JsonFault (Option α)}
    (value : Json) : resolve none (some value) read = (read value).toOption := rfl

theorem DraftMetadata.toOption_ofMembers {found : Option (Option (List Json))}
    {members : List (String × Json)} (names : (members.map Prod.fst).Nodup)
    (once : fieldsName ∈ members.map Prod.fst → found = none) :
    (ofMembers found members).toOption =
      (Draft.resolve found (Members.get? fieldsName members) fieldsOfJson).map
        DraftMetadata.mk := by
  induction members generalizing found with
  | nil => cases found <;> rfl
  | cons member rest ih =>
      obtain ⟨name, value⟩ := member
      rw [List.map_cons, List.nodup_cons] at names
      rw [ofMembers]
      split
      · next same =>
          cases same
          obtain rfl := once List.mem_cons_self
          have later (fields : Option (List Json)) :
              (ofMembers (some fields) rest).toOption = some ⟨fields⟩ :=
            ih names.2 fun listed => absurd listed names.1
          simp only [Option.isSome_none, Bool.false_eq_true, if_false, toOption_bind, later,
            Members.get?_cons_self, Draft.resolve_none_some, Option.map_eq_bind,
            Function.comp_def]
      · next differs =>
          rw [Members.get?_cons_of_ne differs]
          exact ih names.2 fun listed => once (List.mem_cons_of_mem _ listed)

theorem Draft.toOption_ofMembers {relationships : Option (Option (List DraftRelationship))}
    {metadata : Option (Option DraftMetadata)} {members : List (String × Json)}
    (names : (members.map Prod.fst).Nodup)
    (once : relationshipsName ∈ members.map Prod.fst → relationships = none)
    (once' : metadataName ∈ members.map Prod.fst → metadata = none) :
    (ofMembers relationships metadata members).toOption =
      (resolve relationships (Members.get? relationshipsName members) relationshipsOfJson).bind
        fun relationships =>
          (resolve metadata (Members.get? metadataName members) DraftMetadata.ofJson).map
            (Draft.mk relationships) := by
  induction members generalizing relationships metadata with
  | nil =>
      rw [ofMembers]
      cases relationships <;> cases metadata <;> rfl
  | cons member rest ih =>
      obtain ⟨name, value⟩ := member
      rw [List.map_cons, List.nodup_cons] at names
      have once_rest (listed : relationshipsName ∈ rest.map Prod.fst) : relationships = none :=
        once (List.mem_cons_of_mem _ listed)
      have once_rest' (listed : metadataName ∈ rest.map Prod.fst) : metadata = none :=
        once' (List.mem_cons_of_mem _ listed)
      rw [ofMembers]
      split
      · next same =>
          cases same
          obtain rfl := once List.mem_cons_self
          have later (found : Option (List DraftRelationship)) :
              (ofMembers (some found) metadata rest).toOption =
                (resolve metadata (Members.get? metadataName rest) DraftMetadata.ofJson).map
                  (Draft.mk found) :=
            ih names.2 (fun listed => absurd listed names.1) once_rest'
          rw [Members.get?_cons_self, Members.get?_cons_of_ne (by decide)]
          simp only [Option.isSome_none, Bool.false_eq_true, if_false, toOption_bind, later,
            resolve_none_some]
      · next differs =>
          rw [Members.get?_cons_of_ne differs]
          split
          · next same =>
              cases same
              obtain rfl := once' List.mem_cons_self
              have later (found : Option DraftMetadata) :
                  (ofMembers relationships (some found) rest).toOption =
                    (resolve relationships (Members.get? relationshipsName rest)
                      relationshipsOfJson).bind fun relationships =>
                        some ⟨relationships, found⟩ :=
                ih names.2 once_rest fun listed => absurd listed names.1
              rw [Members.get?_cons_self]
              simp only [Option.isSome_none, Bool.false_eq_true, if_false, toOption_bind, later,
                resolve_none_some]
              cases (DraftMetadata.ofJson value).toOption <;>
                cases resolve relationships (Members.get? relationshipsName rest)
                  relationshipsOfJson <;> rfl
          · next differs' =>
              rw [Members.get?_cons_of_ne differs']
              exact ih names.2 once_rest once_rest'

/-! ## What a draft says -/

theorem string?_distinct (json : Json) : json.distinct.string? = json.string? := by
  cases json <;> simp only [Json.distinct, Json.string?]

/-- The field names are the strings among the items that stand in their place. -/
theorem DraftMetadata.fields_resolve (place : Option Json) :
    (Draft.resolve none place fieldsOfJson).map
        (fun fields => (fields.getD []).filterMap Json.string?) =
      (Json.listed? place).map (List.filterMap Json.string?) := by
  cases place with
  | none => rfl
  | some value =>
      cases value with
      | array items =>
          simp only [Draft.resolve_none_some, fieldsOfJson, toOption_ok, Json.listed?,
            Option.map_some, Option.getD_some, List.filterMap_map, Function.comp_def,
            string?_distinct]
      | _ => rfl

theorem DraftMetadata.fieldNames_resolve {place : Option Json}
    (names : ∀ members, place = some (.object members) → (members.map Prod.fst).Nodup)
    (noList : ∀ value, place = some value → value.isArray = false) :
    (Draft.resolve none place ofJson).map fieldNames =
      (Json.metadataItems? place).map (List.filterMap Json.string?) := by
  cases place with
  | none => rfl
  | some value =>
      cases value with
      | array items => cases noList _ rfl
      | object members =>
          rw [Draft.resolve_none_some, ofJson, toOption_map,
            toOption_ofMembers (names members rfl) fun _ => rfl, Option.map_map, Option.map_map]
          exact fields_resolve (Members.get? fieldsName members)
      | _ => rfl

/-- A value is read as the relationship that it describes, and only if it describes one. -/
def DraftRelationship.Faithful (json : Json) : Prop :=
  ∀ relationship, (ofJson json).toOption.map Relationship.ofDraft = some relationship ↔
    json.DescribesSelector ∧ relationship = Relationship.ofJson json

theorem DraftRelationship.ofDrafts_ofItems {items : List Json}
    (faithful : ∀ item ∈ items, Faithful item) (relationships : List Relationship) :
    (ofItems items).toOption.map Relationship.ofDrafts = some relationships ↔
      (∀ item ∈ items, item.DescribesSelector) ∧
        relationships = items.map Relationship.ofJson := by
  induction items generalizing relationships with
  | nil =>
      simp only [ofItems, toOption_ok, Option.map_some, Relationship.ofDrafts, Option.some.injEq]
      exact ⟨fun same => ⟨List.forall_mem_nil _, same.symm⟩, fun same => same.2.symm⟩
  | cons first rest ih =>
      rw [List.forall_mem_cons] at faithful
      have split : (ofItems (first :: rest)).toOption.map Relationship.ofDrafts =
          ((ofJson first).toOption.map Relationship.ofDraft).bind fun relationship =>
            ((ofItems rest).toOption.map Relationship.ofDrafts).map (relationship :: ·) := by
        simp only [ofItems, toOption_bind, toOption_pure]
        cases (ofJson first).toOption <;> cases (ofItems rest).toOption <;> rfl
      rw [split, List.forall_mem_cons, List.map_cons]
      simp only [Option.bind_eq_some_iff, Option.map_eq_some_iff (f := (_ :: ·)),
        faithful.1 _, ih faithful.2]
      grind

/-- The relationships in their place are those of the items there. -/
theorem Draft.ofDrafts_resolve {place : Option Json}
    (faithful : ∀ items, place = some (.array items) →
      ∀ item ∈ items, DraftRelationship.Faithful item) (relationships : List Relationship) :
    (resolve none place relationshipsOfJson).map
        (fun drafts => (drafts.map Relationship.ofDrafts).getD []) = some relationships ↔
      ∃ items, Json.listed? place = some items ∧ (∀ item ∈ items, item.DescribesSelector) ∧
        relationships = items.map Relationship.ofJson := by
  have nothing : some [] = some relationships ↔
      ∃ items : List Json, some [] = some items ∧ (∀ item ∈ items, item.DescribesSelector) ∧
        relationships = items.map Relationship.ofJson := by
    simp [eq_comm]
  cases place with
  | none => exact nothing
  | some value =>
      cases value with
      | null =>
          simp only [resolve_none_some, relationshipsOfJson]
          exact nothing
      | array items =>
          simp only [resolve_none_some, relationshipsOfJson, toOption_map, Option.map_map,
            Json.listed?, Option.some.injEq, exists_eq_left']
          exact DraftRelationship.ofDrafts_ofItems (faithful items rfl) relationships
      | _ =>
          simp only [resolve_none_some, relationshipsOfJson, toOption_error, Option.map_none,
            Json.listed?, reduceCtorEq, false_and, exists_false]

theorem Selector.ofDraft_eq (draft : Draft) :
    Selector.ofDraft draft =
      ⟨(draft.relationships.map Relationship.ofDrafts).getD [], fieldNames draft.metadata⟩ := by
  obtain ⟨relationships, metadata⟩ := draft
  cases relationships <;> rw [Selector.ofDraft] <;> rfl

/-- The members of a regular object are read as the selector that the object describes. -/
theorem Draft.ofDraft_ofMembers {members : List (String × Json)}
    (regular : (Json.object members).Regular)
    (faithful : ∀ items, Members.get? "relationships" members = some (.array items) →
      ∀ item ∈ items, DraftRelationship.Faithful item) (selector : Selector) :
    (ofMembers none none members).toOption.map Selector.ofDraft = some selector ↔
      (Json.object members).DescribesSelector ∧ selector = Selector.ofJson (.object members) := by
  have names : (members.map Prod.fst).Nodup := regular.names members List.mem_cons_self
  have metadata :
      (resolve none (Members.get? "meta" members) DraftMetadata.ofJson).map fieldNames =
        (Json.metadataItems? (Members.get? "meta" members)).map
          (List.filterMap Json.string?) := by
    apply DraftMetadata.fieldNames_resolve
    · intro inner found
      have inside := Members.mem_of_get?_eq_some found
      exact regular.names inner (Json.mem_objects_object inside List.mem_cons_self)
    · intro value found
      have inside := Members.mem_of_get?_eq_some found
      exact regular.metadata members List.mem_cons_self ("meta", value) inside rfl
  have relationships := ofDrafts_resolve faithful
  have parts : (ofMembers none none members).toOption.map Selector.ofDraft =
      ((resolve none (Members.get? "relationships" members) relationshipsOfJson).map
          fun drafts => (drafts.map Relationship.ofDrafts).getD []).bind fun relationships =>
        ((resolve none (Members.get? "meta" members) DraftMetadata.ofJson).map
          fieldNames).map (Selector.mk relationships) := by
    rw [toOption_ofMembers names (fun _ => rfl) fun _ => rfl]
    simp only [relationshipsName, metadataName]
    cases resolve none (Members.get? "relationships" members) relationshipsOfJson <;>
      cases resolve none (Members.get? "meta" members) DraftMetadata.ofJson <;>
        simp [Selector.ofDraft_eq]
  rw [parts, metadata, Json.describesSelector_iff, Selector.ofJson_eq]
  simp only [Option.bind_eq_some_iff, relationships, Json.relationshipItems?, Json.fieldItems?]
  cases Json.listed? (Members.get? "relationships" members) with
  | none => simp
  | some items =>
      cases Json.metadataItems? (Members.get? "meta" members) with
      | none => simp
      | some fields => simp [eq_comm]

/-! ## Relationships -/

namespace DraftRelationship

/-- No own member is given twice where names are not repeated. -/
theorem checkOwn_eq_ok {members : List (String × Json)} {seen : List String}
    (names : (members.map Prod.fst).Nodup)
    (fresh : ∀ name ∈ members.map Prod.fst, name ∉ seen) : checkOwn seen members = .ok () := by
  induction members generalizing seen with
  | nil => rfl
  | cons member rest ih =>
      rw [List.map_cons, List.nodup_cons] at names
      rw [List.map_cons, List.forall_mem_cons] at fresh
      rw [checkOwn, if_neg fresh.1]
      split
      · refine ih names.2 fun name listed => ?_
        rw [List.mem_cons, not_or]
        exact ⟨fun same => names.1 (same ▸ listed), fresh.2 name listed⟩
      · exact ih names.2 fresh.2

theorem stringOf_own (name : String) (members : List (String × Json)) :
    stringOf (own name members) = (Json.object members).memberText? name := by
  change stringOf (own name members) = (Members.get? name members).bind Json.string?
  unfold own
  cases Members.get? name members with
  | none => rfl
  | some value =>
      cases value with
      | null => rfl
      | _ => simp only [stringOf, Option.bind_some, string?_distinct]

/-- The relationship of an object has the kind and the keys that its members say. -/
theorem ofDraft_assemble (members : List (String × Json)) (target : Draft) :
    Relationship.ofDraft (assemble members target) =
      ⟨(Json.object members).relationshipKind, (Json.object members).memberText? "keyId",
        (Json.object members).memberText? "keyValue", Selector.ofDraft target⟩ := by
  rw [assemble, Relationship.ofDraft, stringOf_own, stringOf_own, stringOf_own]
  rfl

/-- A regular value is read as the relationship that it describes. -/
theorem faithful_of_regular {json : Json} (regular : json.Regular) : Faithful json := by
  induction json using Selector.ofJson.induct with
  | case1 json ih =>
      intro relationship
      cases json with
      | object members =>
          have names : (members.map Prod.fst).Nodup := regular.names members List.mem_cons_self
          have once : checkOwn [] members = .ok () :=
            checkOwn_eq_ok names fun _ _ => List.not_mem_nil
          have target := Draft.ofDraft_ofMembers regular fun items found item listed =>
            ih ⟨item, by rwa [Json.relationshipItems?, found]⟩ (regular.item found listed)
          have parts : (ofJson (.object members)).toOption.map Relationship.ofDraft =
              ((Draft.ofMembers none none members).toOption.map Selector.ofDraft).map
                (Relationship.mk (Json.object members).relationshipKind
                  ((Json.object members).memberText? "keyId")
                  ((Json.object members).memberText? "keyValue")) := by
            rw [ofJson, once]
            cases (Draft.ofMembers none none members) with
            | ok draft => exact congrArg some (ofDraft_assemble members draft)
            | error fault => rfl
          rw [parts, Option.map_eq_some_iff]
          simp only [target, Relationship.ofJson]
          grind
      | _ =>
          simp only [ofJson, toOption_error, Option.map_none, reduceCtorEq, false_iff, not_and]
          intro describes
          obtain ⟨members, same⟩ := describes.eq_object
          cases same

end DraftRelationship

/-! ## Selectors -/

/-- A regular value that is no list is read as the selector that it describes. -/
theorem Draft.ofDraft_ofNode {room : Nat} {node : Node} {value : Json} (genuine : node.Genuine)
    (read : node.read room = .ok value) (regular : value.Regular) (root : value.isArray = false)
    (selector : Selector) :
    (ofNode room node).toOption.map Selector.ofDraft = some selector ↔
      value.DescribesSelector ∧ selector = Selector.ofJson value := by
  cases genuine.readsAs read with
  | scalar isScalar =>
      refine ⟨nofun, fun described => ?_⟩
      obtain ⟨members, rfl⟩ := described.1.eq_object
      cases isScalar
  | list => cases root
  | object entered spelled closed inside =>
      rw [← ofDraft_ofMembers regular fun items found item listed =>
        DraftRelationship.faithful_of_regular (regular.item found listed)]
      simp only [ofNode, entered, closed, toOption_bind, toOption_ok, Option.bind_some,
        toOption_pure, toOption_ofNodeMembers inside spelled, Option.bind_fun_some]

/-- A document that is read as a value is parsed as the selector of its root. -/
theorem Selector.toOption_parse {text : String} {value : Json}
    (read : (Document.ofText text).read = .ok value) :
    (Document.ofText text).root.read Node.nestingLimit = .ok value ∧
      (Selector.parse text).toOption =
        (Draft.ofNode Node.nestingLimit (Document.ofText text).root).toOption.map
          Selector.ofDraft := by
  obtain ⟨found, root, rest⟩ := bind_eq_ok_iff.mp read
  obtain ⟨_, ended, same⟩ := bind_eq_ok_iff.mp rest
  cases same
  refine ⟨root, ?_⟩
  unfold Selector.parse Draft.parse Draft.ofDocument
  rw [ended]
  cases Draft.ofNode Node.nestingLimit (Document.ofText text).root <;> rfl

/-- The selector of a text with a regular value. -/
theorem Selector.parse_eq_ok_iff {text : String} {value : Json}
    (read : (Document.ofText text).read = .ok value) (regular : value.Regular)
    (root : value.isArray = false) {selector : Selector} :
    Selector.parse text = .ok selector ↔
      value.DescribesSelector ∧ selector = Selector.ofJson value := by
  obtain ⟨node, parsed⟩ := Selector.toOption_parse read
  rw [← toOption_eq_some_iff, parsed]
  exact Draft.ofDraft_ofNode (Document.genuine_ofText text) node regular root selector

/-- **The selector of a text is parsed exactly when its value describes one.** Where no
object of the text repeats a member name and neither the root nor any metadata are a list,
a selector is parsed if and only if the value describes one, and then it is the selector of
the value. Rearranged values give the same. -/
theorem Selector.parse_exact {text : String} {value : Json}
    (read : (Document.ofText text).read = .ok value) (regular : value.Regular)
    (root : value.isArray = false) :
    Json.parse text = .ok value ∧
    (∀ selector, Selector.parse text = .ok selector ↔
      value.DescribesSelector ∧ selector = Selector.ofJson value) ∧
    ∀ text' value', (Document.ofText text').read = .ok value' → value'.Regular →
      value'.isArray = false → Json.Rearranged .selector value value' →
        ∀ selector, Selector.parse text = .ok selector ↔ Selector.parse text' = .ok selector := by
  refine ⟨?_, fun selector => parse_eq_ok_iff read regular root, ?_⟩
  · rw [Json.parse, read]
    exact congrArg Except.ok (Json.distinct_eq_self regular.names)
  · intro text' value' read' regular' root' rearranged selector
    obtain ⟨describes, same⟩ := rearranged.alike
    rw [parse_eq_ok_iff read regular root, parse_eq_ok_iff read' regular' root', describes, same]

/-- A value with one relationship, which lacks a key, and with one name among its fields. -/
def profileValue : Json :=
  .object [("relationships", .array [.object [("keyId", .string "id"),
      ("ngrxEntityRelationship", .string "childEntity"), ("keyValue", .bool true)]]),
    ("meta", .object [("gqlFields", .array [.string "name", .null])])]

/-- The same with its members in another order and with one more in its metadata. -/
def profileValue' : Json :=
  .object [("meta", .object [("note", .array [.object []]),
      ("gqlFields", .array [.string "name", .null])]),
    ("relationships", .array [.object [("ngrxEntityRelationship", .string "childEntity"),
      ("keyId", .string "id"), ("keyValue", .bool true)]])]

theorem Selector.parse_exact_profile :
    (Document.ofText profileValue.text).read = .ok profileValue ∧ profileValue.Regular ∧
    profileValue.isArray = false ∧
    (Document.ofText profileValue'.text).read = .ok profileValue' ∧ profileValue'.Regular ∧
    profileValue'.isArray = false ∧ Json.Rearranged .selector profileValue profileValue' ∧
    profileValue.DescribesSelector ∧
    Selector.parse profileValue'.text =
      .ok ⟨[⟨.childEntity, some "id", none, .empty⟩], ["name"]⟩ := by
  have read : (Document.ofText profileValue.text).read = .ok profileValue := by decide +kernel
  have read' : (Document.ofText profileValue'.text).read = .ok profileValue' := by
    decide +kernel
  have regular : profileValue.Regular := ⟨by decide, by decide⟩
  have regular' : profileValue'.Regular := ⟨by decide, by decide⟩
  have rearranged : Json.Rearranged .selector profileValue profileValue' :=
    .trans (.order (by decide) (.swap ..)) <|
      .trans (.metadata [] _ (.unknown [] _ (.array [.object []]) (by decide)))
        (.relationship [_] [] [] [] (.order (by decide) (.swap ..)))
  have describes : profileValue.DescribesSelector :=
    .node rfl rfl (List.forall_mem_singleton.mpr (.node rfl rfl (List.forall_mem_nil _)))
  have converted : ⟨[⟨.childEntity, some "id", none, .empty⟩], ["name"]⟩ =
      Selector.ofJson profileValue := by
    decide +kernel
  have exactly := Selector.parse_exact read regular rfl
  exact ⟨read, regular, rfl, read', regular', rfl, rearranged, describes,
    (exactly.2.2 _ _ read' regular' rfl rearranged _).mp
      ((exactly.2.1 _).mpr ⟨describes, converted⟩)⟩

end GraphSelect
