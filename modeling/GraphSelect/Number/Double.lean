/-!
# Finite doubles

A finite double is a sign and a whole number of *units*, where the unit is the
least positive double, 2 to the power −1074. A number of units is the magnitude
of a double when it has at most 53 significant bits (`Double.lowBits`) and lies
below 2 to the power 1024.

`Double.roundUnits` rounds a fraction of units to the nearest such number, a tie
to the one with the even significand. It is precise for every fraction
(`Double.lowBits_dvd_roundUnits`), so `Double.nearest?` fails only where the
result is too large.
-/

set_option autoImplicit false

namespace GraphSelect

/-- The nearest whole number to a fraction, a tie going to the even one. -/
def roundHalfEven (numerator denominator : Nat) : Nat :=
  let quotient := numerator / denominator
  let remainder := numerator % denominator
  if 2 * remainder < denominator ∨ (2 * remainder = denominator ∧ quotient % 2 = 0) then
    quotient
  else
    quotient + 1

theorem roundHalfEven_le (numerator denominator : Nat) :
    roundHalfEven numerator denominator ≤ numerator / denominator + 1 := by
  simp only [roundHalfEven]
  split <;> omega

namespace Double

/-- The unit is 2 to the power of minus this. -/
def fractionBits : Nat := 1074

/-- The number of units in one. -/
def unitsPerOne : Nat := Nat.pow 2 fractionBits

/-- The number of units at which magnitudes are too large: 2 to the power 1024, in units. -/
def limit : Nat := Nat.pow 2 (1024 + fractionBits)

/-- How many low bits of a magnitude cannot be kept: all but the 53 leading ones. -/
def lowBits (units : Nat) : Nat := units.log2 - 52

/-- The magnitude nearest to a fraction of units, a tie going to the even significand. -/
def roundUnits (numerator denominator : Nat) : Nat :=
  let low := lowBits (numerator / denominator)
  roundHalfEven numerator (denominator * Nat.pow 2 low) * Nat.pow 2 low

/-- A significand with room for one more, so that rounding up cannot exceed 53 bits. -/
theorem div_two_pow_lowBits_lt (units : Nat) :
    units / Nat.pow 2 (lowBits units) < Nat.pow 2 53 := by
  simp only [Nat.pow_eq]
  rw [Nat.div_lt_iff_lt_mul (Nat.two_pow_pos _), ← Nat.pow_add]
  refine Nat.lt_of_lt_of_le (Nat.lt_log2_self (n := units)) ?_
  exact Nat.pow_le_pow_right (by omega) (by simp only [lowBits]; omega)

/-- A significand of at most 53 bits, shifted, is precise. -/
theorem lowBits_dvd_of_le {significand shift : Nat} (small : significand ≤ Nat.pow 2 53) :
    Nat.pow 2 (lowBits (significand * Nat.pow 2 shift)) ∣ significand * Nat.pow 2 shift := by
  simp only [Nat.pow_eq] at small ⊢
  rcases Nat.lt_or_eq_of_le small with less | equal
  · by_cases zero : significand = 0
    · simp [zero]
    refine Nat.dvd_mul_left_of_dvd ?_ _
    refine Nat.pow_dvd_pow 2 ?_
    have below : significand * 2 ^ shift < 2 ^ (53 + shift) := by
      rw [Nat.pow_add]
      exact Nat.mul_lt_mul_of_pos_right less (Nat.two_pow_pos _)
    have nonzero : significand * 2 ^ shift ≠ 0 :=
      Nat.mul_ne_zero zero (Nat.ne_of_gt (Nat.two_pow_pos _))
    have := (Nat.log2_lt nonzero).2 below
    simp only [lowBits]
    omega
  · rw [equal, ← Nat.pow_add]
    refine Nat.pow_dvd_pow 2 ?_
    rw [lowBits, Nat.log2_two_pow]
    omega

/-- Rounding gives a magnitude with at most 53 significant bits. -/
theorem lowBits_dvd_roundUnits (numerator denominator : Nat) :
    Nat.pow 2 (lowBits (roundUnits numerator denominator)) ∣
      roundUnits numerator denominator := by
  refine lowBits_dvd_of_le (Nat.le_trans (roundHalfEven_le _ _) ?_)
  rw [← Nat.div_div_eq_div_mul]
  exact div_two_pow_lowBits_lt _

end Double

/-- A finite double: a sign and a magnitude in units. -/
structure Double where
  negative : Bool
  units : Nat
  /-- The magnitude has at most 53 significant bits. -/
  precise : Nat.pow 2 (Double.lowBits units) ∣ units
  inRange : units < Double.limit
deriving DecidableEq

namespace Double

/-- The double nearest to a fraction of units, when it is not too large. -/
def nearest? (negative : Bool) (numerator denominator : Nat) : Option Double :=
  if inRange : roundUnits numerator denominator < limit then
    some ⟨negative, roundUnits numerator denominator,
      lowBits_dvd_roundUnits numerator denominator, inRange⟩
  else
    none

theorem pow_two_pos (bits : Nat) : 0 < Nat.pow 2 bits := Nat.two_pow_pos bits

theorem unitsPerOne_pos : 0 < unitsPerOne := by
  unfold unitsPerOne
  exact pow_two_pos _

theorem limit_pos : 0 < limit := by
  unfold limit
  exact pow_two_pos _

/-- Zero, with its sign. -/
def zero (negative : Bool) : Double := ⟨negative, 0, Nat.dvd_zero _, limit_pos⟩

/-- The greatest power of ten that is in range. -/
def greatestPower : Nat := 308

/-- A positive number below 10 to the power of minus this rounds to zero. -/
def vanishingPower : Nat := 324

/-- The double nearest to a number in decimal form, when it is not too large. Only
powers of moderate size are computed. A positive number with a power above the
greatest one is too large, and since the digits lie below 10 to the power of
`digits.log2 + 1`, the size of what vanishes is known from the exponents alone. -/
def ofDecimal? (negative : Bool) (digits : Nat) (exponent : Int) : Option Double :=
  if digits = 0 ∨ exponent + (digits.log2 + 1 : Nat) < -vanishingPower then some (zero negative)
  else
    match exponent with
    | .ofNat power =>
      if greatestPower < power then none
      else nearest? negative (digits * Nat.pow 10 power * unitsPerOne) 1
    | .negSucc power => nearest? negative (digits * unitsPerOne) (Nat.pow 10 (power + 1))

/-- The double is a whole number. -/
def isWhole (double : Double) : Bool := double.units % unitsPerOne == 0

/-- The magnitude without its fraction. -/
def wholePart (double : Double) : Nat := double.units / unitsPerOne

/-- The double is zero, with either sign. -/
def isZero (double : Double) : Bool := double.units == 0

end Double

end GraphSelect
