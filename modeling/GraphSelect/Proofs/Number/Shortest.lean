import GraphSelect.Number.Shortest
import Mathlib.Algebra.Order.Ring.Nat

/-!
# The shortest decimal of a whole number

Around a whole number of at least 53 bits the reals that round to it reach as far as half the
place of its last kept bit, and downwards half as far when it is a power of two
(`Double.roundingInterval_whole`). What the search takes is one of the two neighbours on a grid
of decimals (`Double.of_nearestDecimal?_eq_some`), and the number itself where it is on the grid
(`Double.nearestDecimal?_of_dvd`). It stops at the first grid with a neighbour in reach
(`Double.exists_shortest_eq`).

Two sizes are told apart. Above the greatest safe integer and below 10 to the power 16, only the
number itself is in reach (`Double.shortest_of_short`). From there on the grid of 17 digits is
fine enough, so the digits reach at least as far as those of the number
(`Double.shortest_of_long`).
-/

set_option autoImplicit false

namespace GraphSelect

/-! ## Lengths -/

theorem decimalLength_pos (n : Nat) : 0 < decimalLength n := Nat.length_toDigits_pos

theorem decimalLength_le_iff {n length : Nat} (positive : 0 < length) :
    decimalLength n ≤ length ↔ n < 10 ^ length :=
  Nat.length_toDigits_le_iff (by decide) positive

theorem lt_decimalLength_iff {n length : Nat} (positive : 0 < n) :
    length < decimalLength n ↔ 10 ^ length ≤ n := by
  rcases Nat.eq_zero_or_pos length with rfl | longer
  · exact iff_of_true (decimalLength_pos n) positive
  · rw [← not_le, decimalLength_le_iff longer, not_lt]

/-! ## Rounding -/

theorem roundHalfEven_eq (numerator denominator : Nat) :
    roundHalfEven numerator denominator = numerator / denominator ∨
      roundHalfEven numerator denominator = numerator / denominator + 1 := by
  rw [roundHalfEven]
  split
  · exact .inl rfl
  · exact .inr rfl

theorem roundHalfEven_of_dvd {numerator denominator : Nat} (positive : 0 < denominator)
    (divides : denominator ∣ numerator) :
    roundHalfEven numerator denominator = numerator / denominator := by
  rw [roundHalfEven, Nat.mod_eq_zero_of_dvd divides, if_pos (.inl positive)]

namespace Double

/-! ## The search -/

/-- The digits of the greatest decimal on a grid that does not exceed a magnitude. -/
def digitsBelow (units : Nat) (exponent : Int) : Nat :=
  units * (powerOfTen exponent).2 / ((powerOfTen exponent).1 * unitsPerOne)

section Search

variable {units : Nat} {exponent : Int}

/-- What is taken is one of the two neighbours on the grid, and it lies in the interval. -/
theorem of_nearestDecimal?_eq_some {decimal : Decimal}
    (taken : nearestDecimal? units exponent = some decimal) :
    (roundingInterval units).contains decimal = true ∧ decimal.exponent = exponent ∧
      (decimal.digits = digitsBelow units exponent ∨
        decimal.digits = digitsBelow units exponent + 1) := by
  unfold nearestDecimal? at taken
  dsimp only at taken
  split at taken
  case h_1 below above =>
    -- both neighbours are in the interval, and the nearer one is one of them
    rcases roundHalfEven_eq (units * (powerOfTen exponent).2)
      ((powerOfTen exponent).1 * unitsPerOne) with nearer | nearer
    · rw [nearer] at taken
      cases taken
      exact ⟨below, rfl, .inl rfl⟩
    · rw [nearer] at taken
      cases taken
      exact ⟨above, rfl, .inr rfl⟩
  case h_2 below above =>
    cases taken
    exact ⟨below, rfl, .inl rfl⟩
  case h_3 below above =>
    cases taken
    exact ⟨above, rfl, .inr rfl⟩
  case h_4 below above => cases taken

/-- One of the neighbours is taken when one of them lies in the interval. -/
theorem isSome_nearestDecimal? {digits : Nat}
    (neighbour : digits = digitsBelow units exponent ∨ digits = digitsBelow units exponent + 1)
    (contained : (roundingInterval units).contains ⟨digits, exponent⟩ = true) :
    (nearestDecimal? units exponent).isSome = true := by
  unfold nearestDecimal?
  dsimp only
  split
  case h_4 below above =>
    rcases neighbour with rfl | rfl
    · exact absurd contained (Bool.eq_false_iff.mp below)
    · exact absurd contained (Bool.eq_false_iff.mp above)
  all_goals rfl

/-- A magnitude on the grid is taken when it lies in the interval. -/
theorem nearestDecimal?_of_exact
    (exact : (powerOfTen exponent).1 * unitsPerOne ∣ units * (powerOfTen exponent).2)
    (contained : (roundingInterval units).contains ⟨digitsBelow units exponent, exponent⟩ =
      true) :
    nearestDecimal? units exponent = some ⟨digitsBelow units exponent, exponent⟩ := by
  have positive : 0 < (powerOfTen exponent).1 * unitsPerOne :=
    Nat.mul_pos (Nat.pow_pos (by decide)) unitsPerOne_pos
  unfold nearestDecimal?
  dsimp only
  rw [roundHalfEven_of_dvd positive exact]
  split
  case h_3 below _ => exact absurd contained (Bool.eq_false_iff.mp below)
  case h_4 below _ => exact absurd contained (Bool.eq_false_iff.mp below)
  all_goals rfl

/-- The search stops no later than at a number of digits that suffices. -/
theorem exists_shortest_eq {enough : Nat} (bound : enough < 17)
    (sufficient : (nearestDecimal? units (pointPosition units - 1 - enough)).isSome = true) :
    ∃ extra ≤ enough,
      nearestDecimal? units (pointPosition units - 1 - (extra : Nat)) = some (shortest units) := by
  have split : List.range 17 = List.range (enough + 1) ++
      (List.range (17 - (enough + 1))).map (enough + 1 + ·) := by
    rw [← List.range_add, Nat.add_sub_cancel' bound]
  have early : ((List.range (enough + 1)).findSome? fun (extra : Nat) =>
      nearestDecimal? units (pointPosition units - 1 - (extra : Nat))).isSome = true :=
    List.findSome?_isSome_iff.mpr ⟨enough, List.mem_range.mpr (Nat.lt_succ_self _), sufficient⟩
  obtain ⟨decimal, found⟩ := Option.isSome_iff_exists.mp early
  obtain ⟨extra, member, taken⟩ := List.exists_of_findSome?_eq_some found
  have result : shortest units = decimal := by
    rw [shortest, split, List.findSome?_append, Option.or_of_isSome early, found,
      Option.getD_some]
  exact ⟨extra, Nat.lt_succ_iff.mp (List.mem_range.mp member), by rw [result, taken]⟩

end Search

/-! ## Whole magnitudes -/

/-- The place of the last bit that is kept of a whole number of at least 53 bits. -/
def lastPlace (whole : Nat) : Nat := 2 ^ (whole.log2 - 52)

/-- How far below a whole number the reals round to it, in quarters. -/
def reachBelow (whole : Nat) : Nat :=
  if whole = 2 ^ whole.log2 then lastPlace whole else 2 * lastPlace whole

theorem lastPlace_pos (whole : Nat) : 0 < lastPlace whole := Nat.two_pow_pos _

theorem lastPlace_le_reachBelow (whole : Nat) : lastPlace whole ≤ reachBelow whole := by
  unfold reachBelow
  split <;> omega

theorem reachBelow_le (whole : Nat) : reachBelow whole ≤ 2 * lastPlace whole := by
  unfold reachBelow
  split <;> omega

section Whole

variable {whole : Nat}

theorem reachBelow_lt (positive : 0 < whole) : reachBelow whole < 4 * whole := by
  have power : lastPlace whole ≤ 2 ^ whole.log2 :=
    Nat.pow_le_pow_right (by decide) (Nat.sub_le _ _)
  have bound := Nat.log2_self_le (Nat.ne_of_gt positive)
  have reach := reachBelow_le whole
  omega

theorem pointPosition_whole (positive : 0 < whole) :
    pointPosition (whole * unitsPerOne) = decimalLength whole := by
  rw [pointPosition, if_pos (Nat.le_mul_of_pos_left _ positive),
    Nat.mul_div_cancel _ unitsPerOne_pos]

theorem unitsPerOne_eq : unitsPerOne = 2 ^ fractionBits := by
  unfold unitsPerOne
  -- without its value the exponent is not computed with
  generalize fractionBits = bits
  exact Nat.pow_eq

theorem log2_whole (positive : 0 < whole) :
    (whole * unitsPerOne).log2 = whole.log2 + fractionBits := by
  rw [unitsPerOne_eq,
    Nat.log2_eq_iff (Nat.mul_ne_zero (Nat.ne_of_gt positive) (Nat.ne_of_gt (Nat.two_pow_pos _)))]
  constructor
  · rw [Nat.pow_add]
    exact Nat.mul_le_mul_right _ (Nat.log2_self_le (Nat.ne_of_gt positive))
  · rw [Nat.add_right_comm, Nat.pow_add]
    exact Nat.mul_lt_mul_of_pos_right Nat.lt_log2_self (Nat.two_pow_pos _)

theorem two_pow_lowBits_whole (large : 2 ^ 52 ≤ whole) :
    Nat.pow 2 (lowBits (whole * unitsPerOne)) = lastPlace whole * unitsPerOne := by
  have positive : 0 < whole := Nat.lt_of_lt_of_le (Nat.two_pow_pos _) large
  have bits : 52 ≤ whole.log2 := (Nat.le_log2 (Nat.ne_of_gt positive)).mpr large
  rw [Nat.pow_eq, lowBits, log2_whole positive, unitsPerOne_eq, lastPlace, ← Nat.pow_add,
    Nat.sub_add_comm bits]

/-- The reals that round to a whole number of at least 53 bits. -/
theorem roundingInterval_whole (large : 2 ^ 52 ≤ whole) :
    roundingInterval (whole * unitsPerOne) =
      ⟨(4 * whole - reachBelow whole) * unitsPerOne,
        (4 * whole + 2 * lastPlace whole) * unitsPerOne, whole / lastPlace whole % 2 == 0⟩ := by
  have positive : 0 < whole := Nat.lt_of_lt_of_le (Nat.two_pow_pos _) large
  have low : lowBits (whole * unitsPerOne) ≠ 0 := by
    rw [lowBits, log2_whole positive, fractionBits]
    omega
  have least : whole * unitsPerOne = 2 ^ (whole * unitsPerOne).log2 ↔
      whole = 2 ^ whole.log2 := by
    rw [log2_whole positive, Nat.pow_add, ← unitsPerOne_eq, Nat.mul_left_inj]
    exact Nat.ne_of_gt unitsPerOne_pos
  have reach : (if lowBits (whole * unitsPerOne) ≠ 0 ∧
        whole * unitsPerOne = Nat.pow 2 (whole * unitsPerOne).log2
      then lastPlace whole * unitsPerOne else 2 * (lastPlace whole * unitsPerOne)) =
      reachBelow whole * unitsPerOne := by
    rw [reachBelow, ite_mul, Nat.mul_assoc]
    exact if_congr ((and_iff_right low).trans least) rfl rfl
  rw [roundingInterval, two_pow_lowBits_whole large, reach,
    Nat.mul_div_mul_right _ _ unitsPerOne_pos, Nat.sub_mul, Nat.add_mul, Nat.mul_assoc,
    Nat.mul_assoc]

end Whole

/-! ## Grids of whole numbers -/

section Grid

variable {low high digits exponent whole : Nat} {closed : Bool}

theorem powerOfTen_ofNat : powerOfTen (exponent : Nat) = (10 ^ exponent, 1) := by
  simp [powerOfTen, Nat.pow_eq]

/-- A decimal that is a whole number, compared with an interval whose ends are quarters. -/
theorem contains_whole_iff :
    (Interval.mk (low * unitsPerOne) (high * unitsPerOne) closed).contains
        ⟨digits, (exponent : Nat)⟩ = true ↔
      if closed then low ≤ 4 * (digits * 10 ^ exponent) ∧ 4 * (digits * 10 ^ exponent) ≤ high
      else low < 4 * (digits * 10 ^ exponent) ∧ 4 * (digits * 10 ^ exponent) < high := by
  have here : digits * 10 ^ exponent * (4 * unitsPerOne) =
      4 * (digits * 10 ^ exponent) * unitsPerOne := by
    rw [Nat.mul_comm 4, Nat.mul_comm _ 4, ← Nat.mul_assoc, Nat.mul_comm _ 4, Nat.mul_assoc 4]
  simp only [Interval.contains, powerOfTen_ofNat, here, Nat.mul_one]
  cases closed <;> simp [unitsPerOne_pos]

/-- A decimal that is less than half the last place above a whole number, or less than its reach
below, rounds to the number. -/
theorem contains_of_lt (large : 2 ^ 52 ≤ whole)
    (lower : 4 * whole < 4 * (digits * 10 ^ exponent) + reachBelow whole)
    (upper : 4 * (digits * 10 ^ exponent) < 4 * whole + 2 * lastPlace whole) :
    (roundingInterval (whole * unitsPerOne)).contains ⟨digits, (exponent : Nat)⟩ = true := by
  have reach := reachBelow_lt (Nat.lt_of_lt_of_le (Nat.two_pow_pos 52) large)
  rw [roundingInterval_whole large, contains_whole_iff]
  split <;> omega

/-- A whole number rounds to itself. -/
theorem contains_self (large : 2 ^ 52 ≤ whole) (exact : digits * 10 ^ exponent = whole) :
    (roundingInterval (whole * unitsPerOne)).contains ⟨digits, (exponent : Nat)⟩ = true := by
  have place := lastPlace_pos whole
  have reach := lastPlace_le_reachBelow whole
  refine contains_of_lt large ?_ ?_ <;> omega

/-- A decimal that rounds to a whole number lies at most half the last place away. -/
theorem le_of_contains (large : 2 ^ 52 ≤ whole)
    (contained :
      (roundingInterval (whole * unitsPerOne)).contains ⟨digits, (exponent : Nat)⟩ = true) :
    2 * whole ≤ 2 * (digits * 10 ^ exponent) + lastPlace whole ∧
      2 * (digits * 10 ^ exponent) ≤ 2 * whole + lastPlace whole := by
  rw [roundingInterval_whole large, contains_whole_iff] at contained
  have reach := reachBelow_le whole
  split at contained <;> omega

theorem digitsBelow_whole :
    digitsBelow (whole * unitsPerOne) (exponent : Nat) = whole / 10 ^ exponent := by
  rw [digitsBelow, powerOfTen_ofNat, Nat.mul_one, Nat.mul_div_mul_right _ _ unitsPerOne_pos]

/-- The search on the grids of whole numbers. -/
theorem exists_shortest_whole (positive : 0 < whole) {enough : Nat} (bound : enough < 17)
    (fits : enough < decimalLength whole)
    (sufficient : (nearestDecimal? (whole * unitsPerOne)
      ((decimalLength whole - 1 - enough : Nat) : Int)).isSome = true) :
    ∃ extra ≤ enough, nearestDecimal? (whole * unitsPerOne)
      ((decimalLength whole - 1 - extra : Nat) : Int) = some (shortest (whole * unitsPerOne)) := by
  have grid : ∀ extra ≤ enough, pointPosition (whole * unitsPerOne) - 1 - (extra : Nat) =
      ((decimalLength whole - 1 - extra : Nat) : Int) := by
    intro extra less
    rw [pointPosition_whole positive]
    omega
  rw [← grid enough (Nat.le_refl _)] at sufficient
  obtain ⟨extra, less, taken⟩ := exists_shortest_eq bound sufficient
  rw [grid extra less] at taken
  exact ⟨extra, less, taken⟩

/-- A whole number on the grid is taken. -/
theorem nearestDecimal?_of_dvd (large : 2 ^ 52 ≤ whole) (divides : 10 ^ exponent ∣ whole) :
    nearestDecimal? (whole * unitsPerOne) (exponent : Nat) =
      some ⟨whole / 10 ^ exponent, (exponent : Nat)⟩ := by
  have exact : (powerOfTen (exponent : Nat)).1 * unitsPerOne ∣
      whole * unitsPerOne * (powerOfTen (exponent : Nat)).2 := by
    rw [powerOfTen_ofNat, Nat.mul_one]
    exact Nat.mul_dvd_mul_right divides unitsPerOne
  rw [nearestDecimal?_of_exact exact, digitsBelow_whole]
  rw [digitsBelow_whole]
  exact contains_self large (Nat.div_mul_cancel divides)

end Grid

/-! ## Numbers of sixteen digits -/

section Short

variable {whole : Nat}

/-- Just above the safe integers only every other whole number is kept. -/
theorem lastPlace_of_short (large : 2 ^ 53 ≤ whole) (short : whole < 10 ^ 16) :
    lastPlace whole = 2 := by
  have bits : whole.log2 = 53 := by
    rw [Nat.log2_eq_iff (by omega)]
    omega
  rw [lastPlace, bits]
  rfl

theorem even_of_short (large : 2 ^ 53 ≤ whole) (short : whole < 10 ^ 16)
    (precise : Nat.pow 2 (lowBits (whole * unitsPerOne)) ∣ whole * unitsPerOne) : 2 ∣ whole := by
  rw [two_pow_lowBits_whole (Nat.le_trans (by decide) large), lastPlace_of_short large short]
    at precise
  exact Nat.dvd_of_mul_dvd_mul_right unitsPerOne_pos precise

/-- What rounds to such a number on a grid of tens is at most one away, and even as the number
is. -/
theorem eq_of_contains {digits exponent : Nat} (large : 2 ^ 53 ≤ whole)
    (short : whole < 10 ^ 16) (even : 2 ∣ whole) (tens : exponent ≠ 0)
    (contained :
      (roundingInterval (whole * unitsPerOne)).contains ⟨digits, (exponent : Nat)⟩ = true) :
    digits * 10 ^ exponent = whole := by
  have near := le_of_contains (by omega) contained
  rw [lastPlace_of_short large short] at near
  have evenTens : 2 ∣ digits * 10 ^ exponent :=
    Nat.dvd_mul_left_of_dvd (Nat.dvd_trans (by decide) (dvd_pow_self 10 tens)) _
  omega

/-- Above the safe integers, an even number of sixteen digits is its own shortest decimal. -/
theorem shortest_of_short (large : 2 ^ 53 ≤ whole) (short : whole < 10 ^ 16)
    (even : 2 ∣ whole) :
    ∃ digits exponent : Nat, shortest (whole * unitsPerOne) = ⟨digits, exponent⟩ ∧
      digits * 10 ^ exponent = whole := by
  have kept : 2 ^ 52 ≤ whole := by omega
  have upper : decimalLength whole ≤ 16 := (decimalLength_le_iff (by decide)).mpr short
  have lower : 15 < decimalLength whole := (lt_decimalLength_iff (by omega)).mpr (by omega)
  have units : decimalLength whole - 1 - 15 = 0 := by omega
  obtain ⟨extra, -, taken⟩ := exists_shortest_whole (by omega) (by omega) lower (by
    rw [units, nearestDecimal?_of_dvd kept (Nat.one_dvd _)]
    rfl)
  generalize shortest (whole * unitsPerOne) = decimal at taken ⊢
  generalize decimalLength whole - 1 - extra = exponent at taken
  by_cases divides : 10 ^ exponent ∣ whole
  · rw [nearestDecimal?_of_dvd kept divides] at taken
    exact ⟨whole / 10 ^ exponent, exponent, (Option.some.inj taken).symm,
      Nat.div_mul_cancel divides⟩
  · obtain ⟨contained, same, -⟩ := of_nearestDecimal?_eq_some taken
    obtain ⟨digits, _⟩ := decimal
    subst same
    have tens : exponent ≠ 0 := by
      rintro rfl
      exact divides (Nat.one_dvd _)
    exact ⟨digits, exponent, rfl, eq_of_contains large short even tens contained⟩

end Short

/-! ## Longer numbers -/

section Long

variable {whole : Nat}

theorem two_pow_log2_eq (large : 2 ^ 52 ≤ whole) :
    2 ^ whole.log2 = 2 ^ 52 * lastPlace whole := by
  have positive : whole ≠ 0 := Nat.ne_of_gt (Nat.lt_of_lt_of_le (Nat.two_pow_pos 52) large)
  rw [lastPlace, ← Nat.pow_add, Nat.add_sub_cancel' ((Nat.le_log2 positive).mpr large)]

theorem lt_two_pow_mul_lastPlace (large : 2 ^ 52 ≤ whole) : whole < 2 ^ 53 * lastPlace whole := by
  have bound := Nat.lt_log2_self (n := whole)
  rw [Nat.pow_succ, two_pow_log2_eq large] at bound
  omega

/-- The neighbours on a grid are one step apart. When the step is small enough, that is less
than the interval is long, so one of them is in reach. -/
theorem neighbour_in_reach {step : Nat} (large : 2 ^ 52 ≤ whole) (positive : 0 < step)
    (fine : step * 10 ^ 16 ≤ whole) :
    4 * (whole % step) < reachBelow whole ∨
      4 * (step - whole % step) < 2 * lastPlace whole := by
  have remainder := Nat.mod_lt whole positive
  have upper := lt_two_pow_mul_lastPlace large
  unfold reachBelow
  split
  case isTrue power =>
    rw [two_pow_log2_eq large] at power
    omega
  case isFalse => omega

/-- A decimal is found on every grid that is fine enough. -/
theorem isSome_nearestDecimal?_of_fine {exponent : Nat} (large : 2 ^ 52 ≤ whole)
    (fine : 10 ^ exponent * 10 ^ 16 ≤ whole) :
    (nearestDecimal? (whole * unitsPerOne) (exponent : Nat)).isSome = true := by
  have positive : 0 < 10 ^ exponent := Nat.pow_pos (by decide)
  have place := lastPlace_pos whole
  have closer := lastPlace_le_reachBelow whole
  have remainder := Nat.mod_lt whole positive
  have division := Nat.div_add_mod' whole (10 ^ exponent)
  have above := Nat.add_one_mul (whole / 10 ^ exponent) (10 ^ exponent)
  rcases neighbour_in_reach large positive fine with near | near
  · refine isSome_nearestDecimal? (.inl digitsBelow_whole.symm) (contains_of_lt large ?_ ?_) <;>
      omega
  · refine isSome_nearestDecimal? (.inr (by rw [digitsBelow_whole]))
      (contains_of_lt large ?_ ?_) <;>
      omega

/-- From seventeen digits on, the point of the shortest decimal stands at least as far behind
its first digit as that of the number. -/
theorem shortest_of_long (long : 10 ^ 16 ≤ whole) :
    (shortest (whole * unitsPerOne)).digits ≠ 0 ∧
      17 ≤ (decimalLength (shortest (whole * unitsPerOne)).digits : Int) +
        (shortest (whole * unitsPerOne)).exponent := by
  have longer : 16 < decimalLength whole := (lt_decimalLength_iff (by omega)).mpr long
  have fine : 10 ^ (decimalLength whole - 1 - 16) * 10 ^ 16 ≤ whole := by
    rw [← Nat.pow_add]
    exact (lt_decimalLength_iff (by omega)).mp (by omega)
  obtain ⟨extra, bound, taken⟩ := exists_shortest_whole (by omega) (by omega) longer
    (isSome_nearestDecimal?_of_fine (by omega) fine)
  generalize shortest (whole * unitsPerOne) = decimal at taken ⊢
  obtain ⟨-, exponent, digits⟩ := of_nearestDecimal?_eq_some taken
  rw [digitsBelow_whole] at digits
  have size : 10 ^ extra ≤ decimal.digits := by
    have quotient : 10 ^ extra ≤ whole / 10 ^ (decimalLength whole - 1 - extra) := by
      rw [Nat.le_div_iff_mul_le (Nat.pow_pos (by decide)), ← Nat.pow_add]
      exact (lt_decimalLength_iff (by omega)).mp (by omega)
    omega
  have positive : 0 < decimal.digits := Nat.lt_of_lt_of_le (Nat.pow_pos (by decide)) size
  have length := (lt_decimalLength_iff positive).mpr size
  refine ⟨Nat.ne_of_gt positive, ?_⟩
  rw [exponent]
  omega

end Long

end Double

end GraphSelect
