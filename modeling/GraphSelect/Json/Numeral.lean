import GraphSelect.Json.Cursor

/-!
# Numbers in a document

A numeral is a number as it is spelled: a sign, whole digits, digits of a
fraction, an exponent. Its value is an integer when it has neither fraction nor
exponent and fits 64 bits. Every other numeral is a double.

The double is not always the nearest one. The leading digits are gathered into a
64-bit significand, the digits that do not fit are only counted or dropped, and
the rounded significand is multiplied or divided by a rounded power of ten
(`Double.scaled?`).
-/

set_option autoImplicit false

namespace GraphSelect

namespace Double

/-- The magnitude nearest to a power of ten. -/
def powerUnits (power : Nat) : Nat := roundUnits (Nat.pow 10 power * unitsPerOne) 1

/-- A magnitude divided by a power of ten, in steps of at most the greatest power. -/
def scaledDown? (negative : Bool) (units power : Nat) : Option Double :=
  if power ≤ greatestPower then
    nearest? negative (units * unitsPerOne) (powerUnits power)
  else if units = 0 then
    some (zero negative)
  else
    scaledDown? negative (roundUnits (units * unitsPerOne) (powerUnits greatestPower))
      (power - greatestPower)
termination_by power
decreasing_by
  simp only [greatestPower] at *
  omega

/-- A significand times a power of ten: the rounded significand is multiplied or
divided by the rounded power. Fails when the result is too large. -/
def scaled? (negative : Bool) (significand : Nat) (exponent : Int) : Option Double :=
  let units := roundUnits (significand * unitsPerOne) 1
  match exponent with
  | .ofNat power =>
    if power ≤ greatestPower then nearest? negative (units * powerUnits power) unitsPerOne
    else if units = 0 then some (zero negative)
    else none
  | .negSucc power => scaledDown? negative units (power + 1)

end Double

/-- The exponent of a numeral: its sign and its digits. -/
structure NumeralExponent where
  negative : Bool
  digits : List Nat
deriving DecidableEq, Repr

/-- A number as it is spelled. -/
structure Numeral where
  negative : Bool
  whole : List Nat
  fraction : Option (List Nat)
  exponent : Option NumeralExponent
deriving DecidableEq, Repr

namespace Numeral

/-- The significands that can be gathered lie below this. -/
def significandLimit : Nat := 0x10000000000000000

/-- The greatest exponent that can be spelled. -/
def greatestExponent : Nat := 0x7FFFFFFF

/-- The significand with the whole digits that fit, and the number of the others. -/
def gatherWhole (significand left : Nat) : List Nat → Nat × Nat
  | [] => (significand, left)
  | digit :: rest =>
    if left = 0 ∧ significand * 10 + digit < significandLimit then
      gatherWhole (significand * 10 + digit) 0 rest
    else
      gatherWhole significand (left + 1) rest

/-- The significand with the digits of the fraction that fit, and their number. -/
def gatherFraction (significand taken : Nat) : List Nat → Nat × Nat
  | [] => (significand, taken)
  | digit :: rest =>
    if significand * 10 + digit < significandLimit then
      gatherFraction (significand * 10 + digit) (taken + 1) rest
    else
      (significand, taken)

/-- The value of the digits of an exponent, or the number of digits up to the one
at which it is too large. -/
def exponentValue (value read : Nat) : List Nat → Except Nat Nat
  | [] => .ok value
  | digit :: rest =>
    if value * 10 + digit ≤ greatestExponent then
      exponentValue (value * 10 + digit) (read + 1) rest
    else
      .error (read + 1)

/-- The number that digits spell. -/
def ofDigits (digits : List Nat) : Nat :=
  digits.foldl (fun value digit => value * 10 + digit) 0

/-- The integer of a numeral without fraction and exponent, when it fits. A
negative zero is no integer. -/
def integer? (numeral : Numeral) : Option Integer :=
  match numeral.fraction, numeral.exponent with
  | none, none =>
    let value := ofDigits numeral.whole
    if numeral.negative then
      if value = 0 then none else Integer.ofInt? (-(value : Int))
    else
      Integer.ofInt? value
  | _, _ => none

/-- The double of a numeral that ends at the offset `stop`, or the offset at which
it is out of range. -/
def double (numeral : Numeral) (stop : Nat) : Except Nat Double :=
  let (wholeSignificand, left) := gatherWhole 0 0 numeral.whole
  let (significand, taken) := gatherFraction wholeSignificand 0 (numeral.fraction.getD [])
  let start : Int := left - taken
  let scaled (exponent : Int) : Except Nat Double :=
    match Double.scaled? numeral.negative significand exponent with
    | some double => .ok double
    | none => .error stop
  match numeral.exponent with
  | none => scaled start
  | some exponent =>
    match exponentValue 0 0 exponent.digits with
    | .ok value => scaled (if exponent.negative then start - value else start + value)
    | .error read =>
      if significand = 0 ∨ exponent.negative then .ok (.zero numeral.negative)
      else .error (stop - (exponent.digits.length - read))

/-- The value of a numeral that ends at the offset `stop`. -/
def value (numeral : Numeral) (stop : Nat) : Except Failure JsonNumber :=
  match numeral.integer? with
  | some integer => .ok (.integer integer)
  | none =>
    match numeral.double stop with
    | .ok double => .ok (.double double)
    | .error offset => .error ⟨.numberOutOfRange, offset⟩

end Numeral

/-! ## Scanning -/

namespace Cursor

/-- The value of a decimal digit. -/
def digitValue (c : Char) : Nat := c.toNat - '0'.toNat

/-- The digits at a cursor, and the cursor after them. -/
def digits (cursor : Cursor) : List Nat × Cursor :=
  let found := cursor.rest.takeWhile Char.isDigit
  (found.map digitValue,
    ⟨cursor.offset + found.length, cursor.rest.dropWhile Char.isDigit⟩)

/-- A digit has to come next and does not. -/
def digitMissing (cursor : Cursor) : Failure :=
  ⟨if cursor.rest.isEmpty then .textEnds .value else .invalidNumber, cursor.past⟩

/-- Digits, of which there is at least one. -/
def someDigits (cursor : Cursor) : Except Failure (List Nat × Cursor) :=
  match cursor.digits with
  | ([], _) => .error cursor.digitMissing
  | found => .ok found

/-- The digits before the point: a zero alone, or digits that start with another. -/
def wholeDigits (cursor : Cursor) : Except Failure (List Nat × Cursor) :=
  match cursor.rest with
  | '0' :: rest =>
    let next : Cursor := ⟨cursor.offset + 1, rest⟩
    match rest with
    | [] => .ok ([0], next)
    | c :: _ => if c.isDigit then .error ⟨.invalidNumber, next.past⟩ else .ok ([0], next)
  | _ => cursor.someDigits

/-- The fraction, if a point comes next. -/
def fraction (cursor : Cursor) : Except Failure (Option (List Nat) × Cursor) :=
  match cursor.rest with
  | '.' :: rest => do
    let (digits, next) ← someDigits ⟨cursor.offset + 1, rest⟩
    return (some digits, next)
  | _ => .ok (none, cursor)

/-- The sign of an exponent, if there is one. -/
def exponentSign (cursor : Cursor) : Bool × Cursor :=
  match cursor.rest with
  | '+' :: rest => (false, ⟨cursor.offset + 1, rest⟩)
  | '-' :: rest => (true, ⟨cursor.offset + 1, rest⟩)
  | _ => (false, cursor)

/-- The exponent, if its letter comes next. -/
def exponent (cursor : Cursor) : Except Failure (Option NumeralExponent × Cursor) :=
  match cursor.rest with
  | c :: rest =>
    if c = 'e' ∨ c = 'E' then do
      let (negative, signed) := exponentSign ⟨cursor.offset + 1, rest⟩
      let (digits, next) ← signed.someDigits
      return (some ⟨negative, digits⟩, next)
    else
      .ok (none, cursor)
  | [] => .ok (none, cursor)

/-- The sign of a number, if there is one. -/
def sign (cursor : Cursor) : Bool × Cursor :=
  match cursor.rest with
  | '-' :: rest => (true, ⟨cursor.offset + 1, rest⟩)
  | _ => (false, cursor)

/-- The numeral at a cursor, and the cursor after it. -/
def numeral (cursor : Cursor) : Except Failure (Numeral × Cursor) := do
  let (negative, unsigned) := cursor.sign
  let (whole, afterWhole) ← unsigned.wholeDigits
  let (fraction, afterFraction) ← afterWhole.fraction
  let (exponent, next) ← afterFraction.exponent
  return (⟨negative, whole, fraction, exponent⟩, next)

end Cursor
end GraphSelect
