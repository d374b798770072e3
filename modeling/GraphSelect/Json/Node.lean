import GraphSelect.Json.Fault

/-!
# The tree of a document

A document is first laid out as a tree of nodes that say where they are. The tree
goes as far as the text can be followed. Where it cannot, a node is broken or the
end of a list or an object is not a closing bracket, and nothing comes after that.
What is wrong is part of the tree, so that each reader reports the first fault
that it meets.

Two readers are here. `Node.read` makes a JSON value, and `Node.skim` only goes
over the node. They agree on everything but three points: skimming accepts what
can be skimmed only, it has no limit on nesting, and it names some faults after a
comma in another way.
-/

set_option autoImplicit false

namespace GraphSelect

/-- How a list or an object ends. -/
inductive Ending where
  /-- With its closing bracket, which ends at `stop`. -/
  | closed (stop : Nat)
  /-- With its closing bracket right after a comma. -/
  | commaThenClosed (offset : Nat)
  /-- With something else than a comma or the closing bracket. -/
  | separatorMissing (offset : Nat)
  /-- With the end of the text. -/
  | textEnds (offset : Nat)
  /-- With the end of the text after a comma. -/
  | commaThenTextEnds (offset : Nat)
  /-- With something else than a string in the place of a key. -/
  | keyMissing (offset : Nat)
  /-- With a key that is no string. -/
  | keyBroken (reading skimming : Failure)
  /-- Inside its last node, which is broken. -/
  | inside
deriving DecidableEq

/-- The two kinds of container. -/
inductive Container where
  | list
  | object
deriving DecidableEq, Repr

namespace Container

/-- The part of a document that a container is. -/
def construct : Container → Construct
  | list => .list
  | object => .object

/-- A comma or the closing bracket is missing. -/
def separatorFault : Container → JsonFault
  | list => .listEndExpected
  | object => .objectEndExpected

/-- What skimming reports for a closing bracket after a comma. -/
def skimmedCommaFault : Container → JsonFault
  | list => .valueExpected
  | object => .keyExpected

/-- The part in which the text ends after a comma, as skimming reports it. -/
def skimmedAfterComma : Container → Construct
  | list => .value
  | object => .object

end Container

namespace Ending

/-- The offset after the closing bracket, or the failure that reading meets. -/
def read (container : Container) : Ending → Except Failure Nat
  | closed stop => .ok stop
  | commaThenClosed offset => .error ⟨.trailingComma, offset⟩
  | separatorMissing offset => .error ⟨container.separatorFault, offset⟩
  | textEnds offset => .error ⟨.textEnds container.construct, offset⟩
  | commaThenTextEnds offset => .error ⟨.textEnds .value, offset⟩
  | keyMissing offset => .error ⟨.keyExpected, offset⟩
  | keyBroken reading _ => .error reading
  | inside => .ok 0

/-- Nothing, or the failure that skimming meets. -/
def skim (container : Container) : Ending → Except Failure Unit
  | closed _ => .ok ()
  | commaThenClosed offset => .error ⟨container.skimmedCommaFault, offset⟩
  | separatorMissing offset => .error ⟨container.separatorFault, offset⟩
  | textEnds offset => .error ⟨.textEnds container.construct, offset⟩
  | commaThenTextEnds offset => .error ⟨.textEnds container.skimmedAfterComma, offset⟩
  | keyMissing offset => .error ⟨.keyExpected, offset⟩
  | keyBroken _ skimming => .error skimming
  | inside => .ok ()

end Ending

/-- A key of an object. -/
structure Key where
  /-- Its text, or the failure that reading it meets. -/
  text : Except Failure String
  /-- The offset after the key, the blanks after it and, if it comes next, the
  closing bracket of the object. A fault of the key that is not a fault of its
  text is reported there. -/
  settled : Nat

/-- A place in a document with what stands there. -/
inductive Node where
  /-- A word, a number or a string. -/
  | scalar (start stop : Nat) (value : Json)
  /-- A number or a string that can only be skimmed. -/
  | unreadable (start : Nat) (failure : Failure)
  /-- Something at which the text cannot be followed any further. -/
  | broken (start : Nat) (reading skimming : Failure)
  | list (start : Nat) (items : List Node) (ending : Ending)
  | object (start : Nat) (members : List (Key × Node)) (ending : Ending)

namespace Node

/-- The offset at which a node starts. -/
def start : Node → Nat
  | scalar start .. => start
  | unreadable start _ => start
  | broken start .. => start
  | list start .. => start
  | object start .. => start

/-- The greatest number of containers that may be nested. -/
def nestingLimit : Nat := 127

/-- The room inside a container that starts at `offset`, when there is room for it. -/
def enter (offset : Nat) : Nat → Except Failure Nat
  | 0 => .error ⟨.tooDeep, offset + 1⟩
  | room + 1 => .ok room

mutual

/-- The value of a node, where there is room for `room` nested containers. The
members of an object are kept as they are spelled. -/
def read (room : Nat) : Node → Except Failure Json
  | scalar _ _ value => .ok value
  | unreadable _ failure => .error failure
  | broken _ reading _ => .error reading
  | list start items ending => do
    let inner ← enter start room
    let values ← readItems inner items
    let _ ← ending.read .list
    return .array values
  | object start members ending => do
    let inner ← enter start room
    let values ← readMembers inner members
    let _ ← ending.read .object
    return .object values

/-- The values of the nodes, in order. -/
def readItems (room : Nat) : List Node → Except Failure (List Json)
  | [] => .ok []
  | first :: rest => do
    let value ← read room first
    let values ← readItems room rest
    return value :: values

/-- The names and values of the members, in order. -/
def readMembers (room : Nat) : List (Key × Node) → Except Failure (List (String × Json))
  | [] => .ok []
  | (key, node) :: rest => do
    let name ← key.text
    let value ← read room node
    let values ← readMembers room rest
    return (name, value) :: values

end

mutual

/-- Goes over a node of which only the form matters. -/
def skim : Node → Except Failure Unit
  | scalar .. => .ok ()
  | unreadable .. => .ok ()
  | broken _ _ skimming => .error skimming
  | list _ items ending => do
    skimItems items
    ending.skim .list
  | object _ members ending => do
    skimMembers members
    ending.skim .object

/-- Goes over the nodes, in order. -/
def skimItems : List Node → Except Failure Unit
  | [] => .ok ()
  | first :: rest => do
    skim first
    skimItems rest

/-- Goes over the values of the members, in order. -/
def skimMembers : List (Key × Node) → Except Failure Unit
  | [] => .ok ()
  | (_, node) :: rest => do
    skim node
    skimMembers rest

end

end Node
end GraphSelect
