import GraphSelect.Selector.Basic

/-!
# The relationships of one level

At one level of a selection set every name is selected at most once. The
relationships are taken in order while the set of names used so far grows, and
each relationship is either selected, with its keys, or omitted for a cause
(`Relationship.resolve`). A relationship that is omitted uses no name.

`RelationshipKind` decides where the identifier goes. A containment passes it
down to the level of its target. An associative relationship selects it on its
own level.
-/

set_option autoImplicit false

namespace GraphSelect

/-- Which of the two keys a relationship lacks. -/
inductive MissingKeys where
  | keyId
  | keyValue
  | both
deriving DecidableEq, Repr

/-- Why a relationship is left out of the selection set. -/
inductive OmissionCause where
  /-- The relationship lacks a key. -/
  | missingKeys (missing : MissingKeys)
  /-- The field of the relationship is already used at its level. -/
  | duplicateField (field : String)
deriving DecidableEq, Repr

namespace RelationshipKind

/-- The names that a selected relationship uses at its own level. -/
def ownNames (kind : RelationshipKind) (keys : Keys) : List String :=
  if kind.isContainment then [keys.value] else [keys.id, keys.value]

/-- The names that a selected relationship requests at the level of its target. -/
def passedDown (kind : RelationshipKind) (keys : Keys) : List String :=
  if kind.isContainment then [keys.id] else []

/-- The name that stands on a line of its own before the block of the
relationship: an associative identifier that is not used yet. -/
def keyLine? (kind : RelationshipKind) (keys : Keys) (used : List String) : Option String :=
  if kind.isContainment || keys.id ∈ used then none else some keys.id

end RelationshipKind

namespace Relationship

/-- The keys of a relationship, or the ones that it lacks. -/
def requireKeys (relationship : Relationship) : Except MissingKeys Keys :=
  match relationship.keyId, relationship.keyValue with
  | some id, some value => .ok ⟨id, value⟩
  | none, some _ => .error .keyId
  | some _, none => .error .keyValue
  | none, none => .error .both

/-- What becomes of a relationship at a level where the names `used` are taken. -/
def resolve (used : List String) (relationship : Relationship) : Except OmissionCause Keys :=
  match relationship.requireKeys with
  | .error missing => .error (.missingKeys missing)
  | .ok keys => if keys.value ∈ used then .error (.duplicateField keys.value) else .ok keys

/-- The names used after a relationship has been taken in. -/
def usedAfter (used : List String) (relationship : Relationship) : List String :=
  match relationship.resolve used with
  | .error _ => used
  | .ok keys => relationship.kind.ownNames keys ++ used

/-- The names used after all relationships of a level have been taken in. -/
def usedAfterAll (used : List String) (relationships : List Relationship) : List String :=
  relationships.foldl usedAfter used

@[simp] theorem usedAfterAll_nil (used : List String) : usedAfterAll used [] = used := rfl

@[simp] theorem usedAfterAll_cons (used : List String) (relationship : Relationship)
    (rest : List Relationship) :
    usedAfterAll used (relationship :: rest) =
      usedAfterAll (relationship.usedAfter used) rest := rfl

/-- Nothing that was used becomes free again. -/
theorem mem_usedAfter_of_mem {used : List String} {name : String} (relationship : Relationship)
    (member : name ∈ used) : name ∈ relationship.usedAfter used := by
  unfold usedAfter
  split
  · exact member
  · exact List.mem_append_right _ member

/-- A relationship resolves exactly when it has both keys and its field is free. -/
theorem resolve_eq_ok_iff {used : List String} {relationship : Relationship} {keys : Keys} :
    relationship.resolve used = .ok keys ↔
      relationship.keyId = some keys.id ∧ relationship.keyValue = some keys.value ∧
        keys.value ∉ used := by
  obtain ⟨kind, keyId, keyValue, selector⟩ := relationship
  obtain ⟨id, value⟩ := keys
  cases keyId <;> cases keyValue <;> simp [resolve, requireKeys]
  rename_i id' value'
  by_cases taken : value' ∈ used
  · simp only [taken, if_true, reduceCtorEq, false_iff]
    rintro ⟨rfl, rfl, free⟩
    exact free taken
  · simp only [taken, if_false, Except.ok.injEq, Keys.mk.injEq]
    constructor
    · rintro ⟨rfl, rfl⟩
      exact ⟨rfl, rfl, taken⟩
    · rintro ⟨rfl, rfl, _⟩
      exact ⟨rfl, rfl⟩

end Relationship

end GraphSelect
