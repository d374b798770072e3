import GraphSelect.Number.Double

/-!
# The shortest decimal of a double

Every real number in a certain interval around a double rounds to it
(`Double.Interval`). The shortest decimal of the double is the one with the
fewest digits in that interval, and of those the nearest, a tie going to the even
digits. For each number of digits from 1 to 17 only the two neighbours of the
double on the grid of such decimals have to be tried.

Lengths are compared in quarters of a unit, so that the ends of the interval,
which lie half or a quarter of the last place away, are whole numbers.
-/

set_option autoImplicit false

namespace GraphSelect

/-- A number in decimal form: the digits times a power of ten. -/
structure Decimal where
  digits : Nat
  exponent : Int
deriving DecidableEq, Repr

/-- How many decimal digits a number has. -/
def decimalLength (n : Nat) : Nat := (Nat.toDigits 10 n).length

namespace Double

/-- The reals that round to a magnitude, in quarters of a unit. The ends belong to
it when `closed` holds. -/
structure Interval where
  low : Nat
  high : Nat
  closed : Bool
deriving DecidableEq, Repr

/-- The interval around a magnitude. Half of the last place goes up. As much goes
down, or half of that when the magnitude is the least of its binade. The ends
round to the magnitude when its significand is even. -/
def roundingInterval (units : Nat) : Interval :=
  let place := Nat.pow 2 (lowBits units)
  let leastOfBinade := lowBits units ≠ 0 ∧ units = Nat.pow 2 units.log2
  ⟨4 * units - (if leastOfBinade then place else 2 * place), 4 * units + 2 * place,
    units / place % 2 == 0⟩

/-- The position of the point: the least power of ten above a positive magnitude. -/
def pointPosition (units : Nat) : Int :=
  if unitsPerOne ≤ units then decimalLength (units / unitsPerOne)
  else 1 - decimalLength ((unitsPerOne - 1) / units)

/-- A power of ten as a fraction. -/
def powerOfTen (exponent : Int) : Nat × Nat :=
  (Nat.pow 10 exponent.toNat, Nat.pow 10 (-exponent).toNat)

/-- The decimal lies in the interval. -/
def Interval.contains (interval : Interval) (decimal : Decimal) : Bool :=
  let (numerator, denominator) := powerOfTen decimal.exponent
  let here := decimal.digits * numerator * (4 * unitsPerOne)
  if interval.closed then
    interval.low * denominator ≤ here && here ≤ interval.high * denominator
  else
    interval.low * denominator < here && here < interval.high * denominator

/-- The decimal with the given exponent that lies in the interval around the
magnitude and is nearest to it. -/
def nearestDecimal? (units : Nat) (exponent : Int) : Option Decimal :=
  let (numerator, denominator) := powerOfTen exponent
  let step := numerator * unitsPerOne
  let below : Decimal := ⟨units * denominator / step, exponent⟩
  let above : Decimal := ⟨below.digits + 1, exponent⟩
  let nearer : Decimal := ⟨roundHalfEven (units * denominator) step, exponent⟩
  let interval := roundingInterval units
  match interval.contains below, interval.contains above with
  | true, true => some nearer
  | true, false => some below
  | false, true => some above
  | false, false => none

/-- The fewest digits that read back, for a positive magnitude. Seventeen digits
always do. -/
def shortest (units : Nat) : Decimal :=
  let point := pointPosition units
  ((List.range 17).findSome? fun extra => nearestDecimal? units (point - 1 - (extra : Nat))).getD
    ⟨0, 0⟩

end Double

end GraphSelect
