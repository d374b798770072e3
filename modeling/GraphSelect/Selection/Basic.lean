import GraphSelect.Selection.Level

/-!
# Selection sets

A selection set is a list of selections. Each is a name alone (a leaf) or a name
with a selection set of its own (a block). `Selector.selections` makes the
selection set of a selector: the relationships of a level come first, then the
included names, then the requested fields, and a name that the level already
uses is not selected again.
-/

set_option autoImplicit false

namespace GraphSelect

/-- One entry of a selection set. -/
inductive Selection where
  /-- A name alone. -/
  | leaf (name : String)
  /-- A name with a selection set of its own. -/
  | block (name : String) (body : List Selection)
deriving Repr

namespace Selection

/-- The name that an entry puts on its level. -/
def name : Selection → String
  | leaf name => name
  | block name _ => name

/-- The names that are not used yet, in order and each once, as leaves. -/
def leaves (used : List String) : List String → List Selection
  | [] => []
  | name :: rest =>
    if name ∈ used then leaves used rest else leaf name :: leaves (name :: used) rest

end Selection

open Selection

mutual

/-- The selection set of a selector, with the names `included` requested before
its own fields. -/
def Selector.selections (included : List String) : Selector → List Selection
  | ⟨relationships, fields⟩ =>
    Relationship.selections [] relationships ++
      leaves (Relationship.usedAfterAll [] relationships) (included ++ fields)

/-- The entries of a level that come from its relationships: for each one that
resolves, a line for its identifier where its kind asks for one, and its block. -/
def Relationship.selections (used : List String) : List Relationship → List Selection
  | [] => []
  | relationship@⟨kind, _, _, selector⟩ :: rest =>
    match relationship.resolve used with
    | .error _ => Relationship.selections used rest
    | .ok keys =>
      ((kind.keyLine? keys used).map leaf).toList ++
        block keys.value (selector.selections (kind.passedDown keys)) ::
          Relationship.selections (kind.ownNames keys ++ used) rest

end

end GraphSelect
