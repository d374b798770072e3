import GraphSelect.Selection.Level

/-!
# Omissions

Making a selection set never fails: a relationship that cannot be selected is
left out, and its target with it. `Selector.omissions` lists what was left out,
one entry for each relationship, in the order of the document. An omission says
where the relationship is (the positions on the way down from the root) and why
it was left out. The list depends on the selector alone.
-/

set_option autoImplicit false

namespace GraphSelect

/-- The positions of relationships on the way down from the root. -/
abbrev SelectorPath := List Nat

/-- The text of a path: the root, then one step for each relationship. -/
def SelectorPath.text (path : SelectorPath) : String :=
  "$" ++ String.join (path.map fun index => ".relationships[" ++ index.repr ++ "]")

/-- A relationship that was left out. -/
structure Omission where
  path : SelectorPath
  cause : OmissionCause
deriving DecidableEq, Repr

mutual

/-- What is left out below the node at `path`. -/
def Selector.omissionsFrom (path : SelectorPath) : Selector → List Omission
  | ⟨relationships, _⟩ => Relationship.omissions path 0 [] relationships

/-- What is left out of a level: `index` is the position of the first of the
relationships among all of the level, and `used` the names that the ones before
it use. -/
def Relationship.omissions (path : SelectorPath) (index : Nat) (used : List String) :
    List Relationship → List Omission
  | [] => []
  | relationship@⟨kind, _, _, selector⟩ :: rest =>
    match relationship.resolve used with
    | .error cause =>
      ⟨path ++ [index], cause⟩ :: Relationship.omissions path (index + 1) used rest
    | .ok keys =>
      selector.omissionsFrom (path ++ [index]) ++
        Relationship.omissions path (index + 1) (kind.ownNames keys ++ used) rest

end

/-- Everything that is left out of the selection set of a selector. -/
def Selector.omissions (selector : Selector) : List Omission :=
  selector.omissionsFrom []

end GraphSelect
