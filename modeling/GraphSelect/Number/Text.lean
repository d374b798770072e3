import GraphSelect.Number.Shortest

/-!
# The text of a double

A double is written with the fewest digits that read back. The point stands among
the digits, or zeros are filled in, while the number is neither large nor small;
beyond that there is one digit before the point and an exponent. A whole number
that is written without an exponent ends with `.0`.
-/

set_option autoImplicit false

namespace GraphSelect

/-- When a number is written without an exponent: the greatest number of digits
before the point, and the greatest number of zeros after it. -/
structure PositionalRange where
  wholeDigits : Int
  leadingZeros : Int
deriving DecidableEq, Repr

/-- Up to 16 digits before the point, up to 4 zeros after it. -/
def PositionalRange.ofDouble : PositionalRange := ⟨16, 4⟩

namespace Decimal

/-- The digits without zeros at the end. -/
def significantDigits (decimal : Decimal) : List Char :=
  ((Nat.toDigits 10 decimal.digits).reverse.dropWhile (· == '0')).reverse

/-- The position of the point: the number is a fraction `0.d` of its digits times
this power of ten. -/
def point (decimal : Decimal) : Int :=
  decimalLength decimal.digits + decimal.exponent

/-- The text of a positive decimal. -/
def text (range : PositionalRange) (decimal : Decimal) : String :=
  let digits := decimal.significantDigits
  let point := decimal.point
  if 0 < point ∧ point ≤ range.wholeDigits then
    let place := point.toNat
    if digits.length ≤ place then
      .ofList (digits ++ List.replicate (place - digits.length) '0' ++ ['.', '0'])
    else
      .ofList (digits.take place ++ '.' :: digits.drop place)
  else if point ≤ 0 ∧ -point ≤ range.leadingZeros then
    .ofList ('0' :: '.' :: List.replicate (-point).toNat '0' ++ digits)
  else
    match digits with
    | [] => "0"
    | [digit] => .ofList [digit, 'e'] ++ (point - 1).repr
    | first :: rest => .ofList (first :: '.' :: rest ++ ['e']) ++ (point - 1).repr

end Decimal

/-- The text of a double. -/
def Double.text (double : Double) : String :=
  (if double.negative then "-" else "") ++
    if double.isZero then "0.0" else (shortest double.units).text .ofDouble

end GraphSelect
