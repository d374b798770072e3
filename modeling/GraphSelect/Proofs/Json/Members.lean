import GraphSelect.Proofs.Json.Tree
import Mathlib.Data.List.Nodup

/-!
# Members with names of their own

Where no name is given twice, a look-up finds every member, the order of the members does
not matter to it (`Members.get?_perm`), and keeping one member for each name keeps them all
(`Members.distinct_eq_self`).

`Json.objects` lists the members of every object in a value. When each of them has names of
its own, the value is the one that `Json.distinct` makes of it (`Json.distinct_eq_self`).
-/

set_option autoImplicit false

namespace GraphSelect

namespace Members

variable {α : Type} {name : String} {value : α} {members members' : List (String × α)}

/-! ## Looking up -/

theorem mem_of_get?_eq_some (found : get? name members = some value) :
    (name, value) ∈ members := by
  induction members with
  | nil => cases found
  | cons member rest ih =>
      rw [get?] at found
      split at found
      · next same =>
          cases found
          cases same
          exact List.mem_cons_self
      · exact List.mem_cons_of_mem _ (ih found)

theorem get?_eq_none_iff : get? name members = none ↔ name ∉ members.map Prod.fst := by
  induction members with
  | nil => exact ⟨fun _ => nofun, fun _ => rfl⟩
  | cons member rest ih =>
      rw [get?, List.map_cons, List.mem_cons, not_or, ← ih]
      split
      · next same => exact ⟨nofun, fun other => absurd same.symm other.1⟩
      · next other => exact ⟨fun none => ⟨fun same => other same.symm, none⟩, And.right⟩

theorem get?_eq_some_iff (names : (members.map Prod.fst).Nodup) :
    get? name members = some value ↔ (name, value) ∈ members := by
  refine ⟨mem_of_get?_eq_some, fun listed => ?_⟩
  cases found : get? name members with
  | none => exact absurd (List.mem_map_of_mem listed) (get?_eq_none_iff.mp found)
  | some other =>
      have same := List.inj_on_of_nodup_map names listed (mem_of_get?_eq_some found) rfl
      exact congrArg some (congrArg Prod.snd same).symm

/-- The order of members with names of their own does not matter to a look-up. -/
theorem get?_perm (names : (members.map Prod.fst).Nodup) (perm : members.Perm members') :
    get? name members = get? name members' := by
  have names' : (members'.map Prod.fst).Nodup := (perm.map Prod.fst).nodup_iff.mp names
  refine Option.ext fun value => ?_
  rw [get?_eq_some_iff names, get?_eq_some_iff names', perm.mem_iff]

theorem get?_append :
    get? name (members ++ members') = (get? name members).or (get? name members') := by
  induction members with
  | nil => rfl
  | cons member rest ih =>
      rw [List.cons_append, get?, get?]
      split
      · rfl
      · exact ih

theorem get?_cons_self {rest : List (String × α)} :
    get? name ((name, value) :: rest) = some value := if_pos rfl

theorem get?_cons_of_ne {other : String} {rest : List (String × α)} (differs : other ≠ name) :
    get? name ((other, value) :: rest) = get? name rest := if_neg differs

/-- A member of another name in the middle does not matter to a look-up. -/
theorem get?_middle_of_ne {other : String} {before after : List (String × α)}
    (differs : other ≠ name) :
    get? name (before ++ (other, value) :: after) = get? name (before ++ after) := by
  rw [get?_append, get?_cons_of_ne differs, get?_append]

theorem get?_middle_self {before after : List (String × α)} :
    get? name (before ++ (name, value) :: after) = (get? name before).or (some value) := by
  rw [get?_append, get?_cons_self]

/-! ## One member for each name -/

theorem insert_eq_append (fresh : name ∉ members.map Prod.fst) :
    insert name value members = members ++ [(name, value)] := by
  induction members with
  | nil => rfl
  | cons member rest ih =>
      rw [List.map_cons, List.mem_cons, not_or] at fresh
      rw [insert, if_neg fun same => fresh.1 same.symm, ih fresh.2, List.cons_append]

theorem foldl_insert_eq_append (names : ((members ++ members').map Prod.fst).Nodup) :
    members'.foldl (fun kept member => insert member.1 member.2 kept) members =
      members ++ members' := by
  induction members' generalizing members with
  | nil => exact (List.append_nil members).symm
  | cons member rest ih =>
      have moved : members ++ member :: rest = (members ++ [member]) ++ rest := by
        rw [List.append_assoc, List.singleton_append]
      have fresh : member.1 ∉ members.map Prod.fst := by
        rw [List.map_append, List.nodup_append] at names
        exact fun listed => names.2.2 _ listed _ List.mem_cons_self rfl
      rw [List.foldl_cons, insert_eq_append fresh, moved]
      exact ih (moved ▸ names)

theorem distinct_eq_self (names : (members.map Prod.fst).Nodup) :
    distinct members = members := by
  change members.foldl (fun kept member => insert member.1 member.2 kept) [] = [] ++ members
  exact foldl_insert_eq_append names

end Members

/-! ## The objects in a value -/

namespace Json

mutual

/-- The members of every object in a value, at every depth. -/
def objects : Json → List (List (String × Json))
  | array items => objectsOfItems items
  | object members => members :: objectsOfMembers members
  | _ => []

/-- The members of every object in the items. -/
def objectsOfItems : List Json → List (List (String × Json))
  | [] => []
  | first :: rest => objects first ++ objectsOfItems rest

/-- The members of every object in the values of the members. -/
def objectsOfMembers : List (String × Json) → List (List (String × Json))
  | [] => []
  | (_, value) :: rest => objects value ++ objectsOfMembers rest

end

theorem objectsOfItems_eq_flatMap (items : List Json) :
    objectsOfItems items = items.flatMap objects := by
  induction items with
  | nil => rfl
  | cons first rest ih => rw [objectsOfItems, ih, List.flatMap_cons]

theorem objectsOfMembers_eq_flatMap (members : List (String × Json)) :
    objectsOfMembers members = members.flatMap fun member => member.2.objects := by
  induction members with
  | nil => rfl
  | cons first rest ih => rw [objectsOfMembers, ih, List.flatMap_cons]

/-- The objects in an item are in the list. -/
theorem mem_objects_array {items : List Json} {item : Json} {members : List (String × Json)}
    (listed : item ∈ items) (inside : members ∈ item.objects) :
    members ∈ (array items).objects := by
  rw [objects, objectsOfItems_eq_flatMap]
  exact List.mem_flatMap_of_mem listed inside

/-- The objects in the value of a member are in the object. -/
theorem mem_objects_object {members inner : List (String × Json)} {member : String × Json}
    (listed : member ∈ members) (inside : inner ∈ member.2.objects) :
    inner ∈ (object members).objects := by
  rw [objects, objectsOfMembers_eq_flatMap]
  exact List.mem_cons_of_mem _ (List.mem_flatMap_of_mem listed inside)

theorem distinctItems_eq_map (items : List Json) : distinctItems items = items.map distinct := by
  induction items with
  | nil => rfl
  | cons first rest ih => rw [distinctItems, ih, List.map_cons]

theorem distinctMembers_eq_map (members : List (String × Json)) :
    distinctMembers members = members.map fun member => (member.1, member.2.distinct) := by
  induction members with
  | nil => rfl
  | cons first rest ih => rw [distinctMembers, ih, List.map_cons]

/-- A value without repeated names is the one with one member for each name. -/
theorem distinct_eq_self {json : Json}
    (names : ∀ members ∈ json.objects, (members.map Prod.fst).Nodup) : json.distinct = json := by
  induction json using Json.induction with
  | null => rfl
  | bool value => rfl
  | number value => rfl
  | string text => rfl
  | array items ih =>
      have same : ∀ item ∈ items, item.distinct = item := fun item listed =>
        ih item listed fun members inside => names members (mem_objects_array listed inside)
      rw [distinct, distinctItems_eq_map, List.map_congr_left same, List.map_id']
  | object members ih =>
      have same : ∀ member ∈ members, (member.1, member.2.distinct) = member :=
        fun member listed => congrArg (Prod.mk member.1) <|
          ih member listed fun inner inside => names inner (mem_objects_object listed inside)
      have own : (members.map Prod.fst).Nodup := names members List.mem_cons_self
      rw [distinct, distinctMembers_eq_map, List.map_congr_left same, List.map_id',
        Members.distinct_eq_self own]

end Json

end GraphSelect
