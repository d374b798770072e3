import GraphSelect.Number.Double

/-!
# JSON values

A JSON value keeps the members of an object in order. The type itself allows an
object to have several members of one name, as a document may. `Json.distinct`
keeps one member for each name: it stands where the name came first and has the
value that came last.

A number is an integer of 64 bits, signed or unsigned, or a finite double. The
two never equal each other. `Json.canonical` turns the doubles that are whole
numbers of moderate size into integers.
-/

set_option autoImplicit false

namespace GraphSelect

/-- A whole number that fits 64 bits, with a sign or without one. -/
structure Integer where
  value : Int
  lower : -0x8000000000000000 ≤ value
  upper : value < 0x10000000000000000
deriving DecidableEq

/-- The integer of a whole number, when it fits. -/
def Integer.ofInt? (value : Int) : Option Integer :=
  if fits : -0x8000000000000000 ≤ value ∧ value < 0x10000000000000000 then
    some ⟨value, fits.1, fits.2⟩
  else
    none

/-- A number of a JSON value. -/
inductive JsonNumber where
  | integer (number : Integer)
  | double (number : Double)
deriving DecidableEq

/-- The number is zero. -/
def JsonNumber.isZero : JsonNumber → Bool
  | .integer number => number.value == 0
  | .double number => number.isZero

/-- A JSON value. -/
inductive Json where
  | null
  | bool (value : Bool)
  | number (number : JsonNumber)
  | string (text : String)
  | array (items : List Json)
  | object (members : List (String × Json))

instance : Inhabited Json := ⟨.null⟩

/-! ## Members -/

namespace Members

/-- The members with one more value. A name that is there keeps its place and
takes the new value. -/
def insert {α : Type} (name : String) (value : α) : List (String × α) → List (String × α)
  | [] => [(name, value)]
  | member :: rest =>
    if member.1 = name then (name, value) :: rest else member :: insert name value rest

/-- The members with one for each name, at the first place and with the last value. -/
def distinct {α : Type} (members : List (String × α)) : List (String × α) :=
  members.foldl (fun kept member => insert member.1 member.2 kept) []

/-- The value of the first member with the name. -/
def get? {α : Type} (name : String) : List (String × α) → Option α
  | [] => none
  | member :: rest => if member.1 = name then some member.2 else get? name rest

end Members

namespace Json

mutual

/-- The value with one member for each name, in every object. -/
def distinct : Json → Json
  | array items => array (distinctItems items)
  | object members => object (Members.distinct (distinctMembers members))
  | json => json

/-- `Json.distinct` of every item. -/
def distinctItems : List Json → List Json
  | [] => []
  | first :: rest => distinct first :: distinctItems rest

/-- `Json.distinct` of the value of every member. -/
def distinctMembers : List (String × Json) → List (String × Json)
  | [] => []
  | (name, value) :: rest => (name, distinct value) :: distinctMembers rest

end

/-! ## Equality -/

mutual

/-- Two values are the same. The order of members does not matter. -/
def same : Json → Json → Bool
  | null, null => true
  | bool left, bool right => left == right
  | number left, number right => left = right
  | string left, string right => left == right
  | array left, array right => sameItems left right
  | object left, object right => left.length == right.length && sameMembers left right
  | _, _ => false

/-- Two lists of values are the same, item by item. -/
def sameItems : List Json → List Json → Bool
  | [], [] => true
  | left :: lefts, right :: rights => same left right && sameItems lefts rights
  | _, _ => false

/-- Every member on the left has the same value on the right. -/
def sameMembers : List (String × Json) → List (String × Json) → Bool
  | [], _ => true
  | (name, value) :: rest, right =>
    (match Members.get? name right with
      | some other => same value other
      | none => false) && sameMembers rest right

end

/-! ## Whole doubles -/

/-- The greatest magnitude up to which every whole number is a double. -/
def safeLimit : Nat := 0x1FFFFFFFFFFFFF

/-- The integer with the sign and the value of a whole double of moderate size. -/
def integerOfDouble? (double : Double) : Option Integer :=
  if double.isWhole && double.wholePart ≤ safeLimit then
    Integer.ofInt? (if double.negative then -double.wholePart else double.wholePart)
  else
    none

/-- The value of a double: an integer if it is a whole number of moderate size. -/
def ofDouble (double : Double) : Json :=
  match integerOfDouble? double with
  | some integer => number (.integer integer)
  | none => number (.double double)

/-- The value of a double, or null for what is no finite number. -/
def ofDouble? : Option Double → Json
  | some double => ofDouble double
  | none => null

mutual

/-- The value with integers for the doubles that are whole numbers of moderate size. -/
def canonical : Json → Json
  | number (.double double) => ofDouble double
  | array items => array (canonicalItems items)
  | object members => object (canonicalMembers members)
  | json => json

/-- `Json.canonical` of every item. -/
def canonicalItems : List Json → List Json
  | [] => []
  | first :: rest => canonical first :: canonicalItems rest

/-- `Json.canonical` of the value of every member. -/
def canonicalMembers : List (String × Json) → List (String × Json)
  | [] => []
  | (name, value) :: rest => (name, canonical value) :: canonicalMembers rest

end

/-! ## Views -/

/-- The value is null. -/
def isNull : Json → Bool
  | null => true
  | _ => false

/-- The text of a string value. -/
def string? : Json → Option String
  | string text => some text
  | _ => none

end Json

end GraphSelect
