import GraphSelect.Json.Writer
import GraphSelect.Proofs.Number.Shortest
import GraphSelect.Proofs.Number.Text
import Mathlib.Algebra.Field.Rat
import Mathlib.Data.Rat.Cast.Order
import Mathlib.Data.List.TakeWhile

/-!
# Whole numbers as doubles

The value of a double that is a whole number below 2 to the power 53 is the integer, and its
text the digits of that integer. The double of a larger number is kept. From 10 to the power 16
on its text has the exponent form. In between, the position of the point is within the
positional range of doubles, and the text is the digits with `.0` behind them
(`Json.encodesWhole_ofDouble_iff`).
-/

set_option autoImplicit false

namespace GraphSelect

/-! ## The digits of a decimal -/

theorem Text.toDigits_mul_pow {n : Nat} (positive : 0 < n) (zeros : Nat) :
    Nat.toDigits 10 (n * 10 ^ zeros) = Nat.toDigits 10 n ++ List.replicate zeros '0' := by
  induction zeros with
  | zero => simp
  | succ zeros ih =>
      have shifted : 0 < n * 10 ^ zeros := Nat.mul_pos positive (Nat.pow_pos (by decide))
      calc Nat.toDigits 10 (n * 10 ^ (zeros + 1))
          = Nat.toDigits 10 (10 * (n * 10 ^ zeros) + 0) := by
            rw [Nat.pow_succ, Nat.add_zero, Nat.mul_comm 10, Nat.mul_assoc]
        _ = Nat.toDigits 10 (n * 10 ^ zeros) ++ Nat.toDigits 10 0 :=
            (Nat.toDigits_append_toDigits (by decide) shifted (by decide)).symm
        _ = Nat.toDigits 10 n ++ List.replicate (zeros + 1) '0' := by
            rw [ih, List.replicate_succ', List.append_assoc]
            rfl

namespace Decimal

/-- Only zeros are taken off at the end. -/
theorem exists_toDigits_eq (decimal : Decimal) :
    ∃ zeros, Nat.toDigits 10 decimal.digits =
      decimal.significantDigits ++ List.replicate zeros '0' := by
  have zeros : ∀ c ∈ ((Nat.toDigits 10 decimal.digits).reverse.takeWhile (· == '0')).reverse,
      c = '0' := by
    intro c member
    rw [List.mem_reverse] at member
    exact beq_iff_eq.mp (List.mem_takeWhile_imp (p := (· == '0')) member)
  obtain ⟨count, removed⟩ : ∃ count,
      ((Nat.toDigits 10 decimal.digits).reverse.takeWhile (· == '0')).reverse =
        List.replicate count '0' := ⟨_, List.eq_replicate_of_mem zeros⟩
  refine ⟨count, ?_⟩
  rw [significantDigits, ← removed, ← List.reverse_append, List.takeWhile_append_dropWhile,
    List.reverse_reverse]

theorem exists_significantDigits_eq_cons {decimal : Decimal} (nonzero : decimal.digits ≠ 0) :
    ∃ first rest, decimal.significantDigits = first :: rest ∧ first ≠ '0' := by
  obtain ⟨zeros, whole⟩ := decimal.exists_toDigits_eq
  cases front : decimal.significantDigits with
  | nil =>
      rw [front, List.nil_append] at whole
      cases zeros with
      | zero => exact absurd whole Nat.toDigits_ne_nil
      | succ zeros => exact absurd (Text.eq_zero_of_toDigits_eq_cons whole).1 nonzero
  | cons first rest =>
      refine ⟨first, rest, rfl, ?_⟩
      rintro rfl
      rw [front, List.cons_append] at whole
      exact nonzero (Text.eq_zero_of_toDigits_eq_cons whole).1

/-- A whole number within the positional range is written with all of its digits and `.0`. -/
theorem text_of_whole {range : PositionalRange} {digits exponent whole : Nat}
    (positive : 0 < digits) (product : digits * 10 ^ exponent = whole)
    (within : (decimalLength whole : Int) ≤ range.wholeDigits) :
    text range ⟨digits, exponent⟩ = .ofList (Nat.toDigits 10 whole ++ ['.', '0']) := by
  obtain ⟨zeros, significant⟩ := exists_toDigits_eq ⟨digits, exponent⟩
  have digitsEq : Nat.toDigits 10 whole =
      significantDigits ⟨digits, exponent⟩ ++ List.replicate (zeros + exponent) '0' := by
    rw [← product, Text.toDigits_mul_pow positive, significant, List.append_assoc,
      List.replicate_append_replicate]
  have point : point ⟨digits, exponent⟩ = decimalLength whole := by
    rw [Decimal.point, decimalLength, decimalLength, ← product, Text.toDigits_mul_pow positive,
      List.length_append, List.length_replicate, Nat.cast_add]
  have length : decimalLength whole =
      (significantDigits ⟨digits, exponent⟩).length + (zeros + exponent) := by
    rw [decimalLength, digitsEq, List.length_append, List.length_replicate]
  have positional := decimalLength_pos whole
  rw [text, point, if_pos ⟨by omega, within⟩, Int.toNat_natCast, if_pos (by omega), digitsEq,
    length, Nat.add_sub_cancel_left]

end Decimal

/-- A number in exponent form: one digit, a point and more digits if there are any, and the
exponent behind the mark. -/
inductive Text.IsExponentForm : List Char → Prop where
  | digit (first : Char) (exponent : Nat) :
      first.isDigit = true → first ≠ '0' →
        IsExponentForm (first :: 'e' :: Nat.toDigits 10 exponent)
  | point (first : Char) (fraction : List Char) (exponent : Nat) :
      first.isDigit = true → first ≠ '0' → fraction ≠ [] →
        (∀ c ∈ fraction, c.isDigit = true) →
          IsExponentForm (first :: '.' :: fraction ++ 'e' :: Nat.toDigits 10 exponent)

/-- A number with its point behind the positional range is written in exponent form. -/
theorem Decimal.isExponentForm_text {range : PositionalRange} {decimal : Decimal}
    (nonzero : decimal.digits ≠ 0) (natural : 0 ≤ range.wholeDigits)
    (beyond : range.wholeDigits < decimal.point) :
    Text.IsExponentForm (decimal.text range).toList := by
  obtain ⟨first, rest, significant, leading⟩ := exists_significantDigits_eq_cons nonzero
  have digits : ∀ c ∈ first :: rest, c.isDigit = true := by
    intro c member
    rw [← significant] at member
    exact isDigit_of_mem_significantDigits member
  obtain ⟨exponent, shifted⟩ := Int.eq_ofNat_of_zero_le (a := decimal.point - 1) (by omega)
  have exponentText : (decimal.point - 1).repr.toList = Nat.toDigits 10 exponent := by
    rw [shifted]
    exact Nat.toList_repr
  have isFirst := digits first List.mem_cons_self
  simp only [text]
  rw [if_neg (by omega), if_neg (by omega), significant]
  cases rest with
  | nil =>
      dsimp only
      rw [String.toList_append, String.toList_ofList, exponentText]
      exact .digit first exponent isFirst leading
  | cons second rest =>
      dsimp only
      rw [String.toList_append, String.toList_ofList, exponentText, List.append_assoc]
      exact .point first (second :: rest) exponent isFirst leading (List.cons_ne_nil _ _)
        fun c member => digits c (List.mem_cons_of_mem _ member)

/-! ## Fractions of zero -/

namespace Text

/-- The text ends in a fraction of zero. -/
def HasZeroFraction (chars : List Char) : Prop := ['.', '0'] <:+ chars

theorem IsExponentForm.not_hasZeroFraction {chars : List Char} (form : IsExponentForm chars)
    (sign : List Char) : ¬ HasZeroFraction (sign ++ chars) := by
  obtain ⟨front, exponent, rfl⟩ : ∃ front exponent,
      chars = front ++ 'e' :: Nat.toDigits 10 exponent := by
    cases form with
    | digit first exponent => exact ⟨[first], exponent, rfl⟩
    | point first fraction exponent => exact ⟨first :: '.' :: fraction, exponent, rfl⟩
  intro zeroFraction
  have short : ['.', '0'] <:+ 'e' :: Nat.toDigits 10 exponent := by
    refine List.suffix_of_suffix_length_le zeroFraction
      ⟨sign ++ front, List.append_assoc _ _ _⟩ ?_
    exact Nat.succ_le_succ Nat.length_toDigits_pos
  have member := short.subset List.mem_cons_self
  rw [List.mem_cons] at member
  rcases member with mark | digit
  · exact absurd mark (by decide)
  · exact absurd (isDigit_of_mem_toDigits digit) (by decide)

/-- The sign that a whole number is written with. -/
def sign (n : Int) : List Char := if n < 0 then ['-'] else []

theorem toList_intRepr (n : Int) : n.repr.toList = sign n ++ Nat.toDigits 10 n.natAbs := by
  cases n with
  | ofNat n =>
      have plain : sign (Int.ofNat n) = [] := if_neg (Int.not_lt.mpr (Int.natCast_nonneg n))
      rw [plain, repr_ofNat]
      rfl
  | negSucc n =>
      have minus : sign (Int.negSucc n) = ['-'] := if_pos (Int.negSucc_lt_zero n)
      rw [minus, repr_negSucc]
      rfl

theorem not_hasZeroFraction_intRepr (n : Int) : ¬ HasZeroFraction n.repr.toList := by
  intro zeroFraction
  have member := zeroFraction.subset List.mem_cons_self
  rw [toList_intRepr, List.mem_append] at member
  rcases member with minus | digit
  · unfold sign at minus
    split at minus <;> simp at minus
  · exact absurd (isDigit_of_mem_toDigits digit) (by decide)

end Text

/-! ## The value of a double -/

namespace Double

/-- The number that a double stands for. -/
def value (double : Double) : ℚ :=
  (if double.negative then -(double.units : ℚ) else double.units) / unitsPerOne

theorem value_eq_intCast_iff {double : Double} {n : Int} :
    double.value = n ↔
      (if double.negative then -(double.units : Int) else double.units) = n * unitsPerOne := by
  have positive : (unitsPerOne : ℚ) ≠ 0 := Nat.cast_ne_zero.mpr (Nat.ne_of_gt unitsPerOne_pos)
  rw [value, div_eq_iff positive, ← Int.cast_inj (α := ℚ)]
  split <;> push_cast <;> rfl

section Whole

variable {double : Double} {n : Int}

theorem units_of_value_eq (value : double.value = n) :
    double.units = n.natAbs * unitsPerOne := by
  have signed := congrArg Int.natAbs (value_eq_intCast_iff.mp value)
  rw [Int.natAbs_mul, Int.natAbs_natCast] at signed
  rw [← signed]
  split
  · rw [Int.natAbs_neg, Int.natAbs_natCast]
  · rw [Int.natAbs_natCast]

/-- The sign of the double in front of the magnitude of its value. -/
theorem signed_of_value_eq (value : double.value = n) :
    (if double.negative then -(n.natAbs : Int) else n.natAbs) = n := by
  have one : (unitsPerOne : Int) ≠ 0 := Int.natCast_ne_zero.mpr (Nat.ne_of_gt unitsPerOne_pos)
  have signed := value_eq_intCast_iff.mp value
  rw [units_of_value_eq value, Int.natCast_mul] at signed
  refine Int.eq_of_mul_eq_mul_right one ?_
  rw [← signed]
  split
  · rw [Int.neg_mul]
  · rfl

theorem negative_iff_of_value_eq (value : double.value = n) (nonzero : n ≠ 0) :
    double.negative = true ↔ n < 0 := by
  have signed := signed_of_value_eq value
  split at signed
  case isTrue negative => exact iff_of_true negative (by omega)
  case isFalse negative => exact iff_of_false negative (by omega)

theorem integerOfDouble?_of_value_eq (value : double.value = n) :
    Json.integerOfDouble? double =
      if n.natAbs < 2 ^ 53 then Integer.ofInt? n else none := by
  have units := units_of_value_eq value
  have whole : double.isWhole = true := by
    rw [isWhole, units, Nat.mul_mod_left]
    rfl
  have part : double.wholePart = n.natAbs := by
    rw [wholePart, units, Nat.mul_div_cancel _ unitsPerOne_pos]
  have limit : n.natAbs ≤ Json.safeLimit ↔ n.natAbs < 2 ^ 53 := by
    rw [Json.safeLimit]
    omega
  rw [Json.integerOfDouble?, whole, part, signed_of_value_eq value, Bool.true_and]
  exact if_congr (decide_eq_true_iff.trans limit) rfl rfl

end Whole

/-- The double of a whole number that needs at most 53 bits and is not too large. -/
def ofWhole (n : Int)
    (precise : Nat.pow 2 (lowBits (n.natAbs * unitsPerOne)) ∣ n.natAbs * unitsPerOne)
    (inRange : n.natAbs * unitsPerOne < limit) : Double :=
  ⟨n < 0, n.natAbs * unitsPerOne, precise, inRange⟩

theorem value_ofWhole {n : Int}
    (precise : Nat.pow 2 (lowBits (n.natAbs * unitsPerOne)) ∣ n.natAbs * unitsPerOne)
    (inRange : n.natAbs * unitsPerOne < limit) : (ofWhole n precise inRange).value = n := by
  refine value_eq_intCast_iff.mpr ?_
  have signed : (if n < 0 then -(n.natAbs : Int) else n.natAbs) = n := by
    split <;> omega
  calc (if decide (n < 0) = true then -((n.natAbs * unitsPerOne : Nat) : Int)
        else (n.natAbs * unitsPerOne : Nat))
      = (if n < 0 then -(n.natAbs : Int) else n.natAbs) * unitsPerOne := by
        rw [ite_mul, Int.neg_mul, ← Int.natCast_mul]
        exact if_congr decide_eq_true_iff rfl rfl
    _ = n * unitsPerOne := by rw [signed]

end Double

namespace Json

section Whole

variable {double : Double} {n : Int}

theorem ofDouble_of_small (value : double.value = n) (small : n.natAbs < 2 ^ 53) :
    ∃ integer, integer.value = n ∧ Integer.ofInt? n = some integer ∧
      ofDouble double = .number (.integer integer) := by
  have fits : -0x8000000000000000 ≤ n ∧ n < 0x10000000000000000 := by omega
  have made : Integer.ofInt? n = some ⟨n, fits.1, fits.2⟩ := dif_pos fits
  refine ⟨⟨n, fits.1, fits.2⟩, rfl, made, ?_⟩
  rw [ofDouble, Double.integerOfDouble?_of_value_eq value, if_pos small, made]

theorem ofDouble_of_large (value : double.value = n) (large : 2 ^ 53 ≤ n.natAbs) :
    ofDouble double = .number (.double double) := by
  rw [ofDouble, Double.integerOfDouble?_of_value_eq value, if_neg (Nat.not_lt.mpr large)]

theorem toList_text_of_large (value : double.value = n) (large : 2 ^ 53 ≤ n.natAbs) :
    (ofDouble double).text.toList = Text.sign n ++
      ((Double.shortest (n.natAbs * Double.unitsPerOne)).text .ofDouble).toList := by
  have units := Double.units_of_value_eq value
  have nonzero : double.isZero = false := by
    rw [Double.isZero, units, beq_eq_false_iff_ne]
    exact Nat.mul_ne_zero (by omega) (Nat.ne_of_gt Double.unitsPerOne_pos)
  have sign : (if double.negative then "-" else "").toList = Text.sign n := by
    rw [Text.sign, apply_ite String.toList]
    exact if_congr (Double.negative_iff_of_value_eq value (by omega)) rfl rfl
  rw [ofDouble_of_large value large, text, JsonNumber.text, Double.text, nonzero,
    if_neg Bool.false_ne_true, String.toList_append, sign, units]

/-- From 10 to the power 16 on, whole doubles are written in exponent form. -/
theorem text_of_long (value : double.value = n) (long : 10 ^ 16 ≤ n.natAbs) :
    ∃ form, Text.IsExponentForm form ∧ (ofDouble double).text.toList = Text.sign n ++ form := by
  obtain ⟨nonzero, point⟩ := Double.shortest_of_long long
  have positional : PositionalRange.ofDouble.wholeDigits < 17 := by decide
  exact ⟨_, Decimal.isExponentForm_text nonzero (by decide) (Int.lt_of_lt_of_le positional point),
    toList_text_of_large value (by omega)⟩

/-- Above the safe integers and with sixteen digits, they are written with `.0`. -/
theorem text_of_short (value : double.value = n) (large : 2 ^ 53 ≤ n.natAbs)
    (short : n.natAbs < 10 ^ 16) : (ofDouble double).text = n.repr ++ ".0" := by
  have even : 2 ∣ n.natAbs := by
    have precise := double.precise
    rw [Double.units_of_value_eq value] at precise
    exact Double.even_of_short large short precise
  obtain ⟨digits, exponent, shortest, product⟩ := Double.shortest_of_short large short even
  have positive : 0 < digits := by
    refine Nat.pos_of_ne_zero ?_
    rintro rfl
    rw [Nat.zero_mul] at product
    omega
  have length : (decimalLength n.natAbs : Int) ≤ PositionalRange.ofDouble.wholeDigits :=
    Int.ofNat_le.mpr ((decimalLength_le_iff (by decide)).mpr short)
  refine String.toList_inj.mp ?_
  rw [toList_text_of_large value large, shortest, Decimal.text_of_whole positive product length,
    String.toList_ofList, String.toList_append, Text.toList_intRepr, List.append_assoc]
  rfl

end Whole

/-! ## The text of a whole double -/

/-- A whole number is encoded without a fraction: as the integer it is while that is below 2 to
the power 53, and in exponent form from there on. -/
structure EncodesWhole (n : Int) (json : Json) : Prop where
  integer : n.natAbs < 2 ^ 53 →
    (∃ integer, Integer.ofInt? n = some integer ∧ json = .number (.integer integer)) ∧
      json.text = n.repr
  exponentForm : 2 ^ 53 ≤ n.natAbs →
    ∃ form, Text.IsExponentForm form ∧ json.text.toList = Text.sign n ++ form
  noFraction : ¬ Text.HasZeroFraction json.text.toList

section Encoding

variable {double : Double} {n : Int}

theorem encodesWhole_of_small (value : double.value = n) (small : n.natAbs < 2 ^ 53) :
    EncodesWhole n (ofDouble double) := by
  obtain ⟨integer, worth, made, encoded⟩ := ofDouble_of_small value small
  have plain : (ofDouble double).text = n.repr := by
    rw [encoded, text, JsonNumber.text, worth]
  constructor
  case integer => exact fun _ => ⟨⟨integer, made, encoded⟩, plain⟩
  case exponentForm => exact fun large => absurd small (Nat.not_lt.mpr large)
  case noFraction =>
    rw [plain]
    exact Text.not_hasZeroFraction_intRepr n

theorem encodesWhole_of_long (value : double.value = n) (long : 10 ^ 16 ≤ n.natAbs) :
    EncodesWhole n (ofDouble double) := by
  obtain ⟨form, isForm, written⟩ := text_of_long value long
  constructor
  case integer => exact fun small => absurd small (by omega)
  case exponentForm => exact fun _ => ⟨form, isForm, written⟩
  case noFraction =>
    rw [written]
    exact isForm.not_hasZeroFraction _

theorem not_encodesWhole_of_short (value : double.value = n) (large : 2 ^ 53 ≤ n.natAbs)
    (short : n.natAbs < 10 ^ 16) : ¬ EncodesWhole n (ofDouble double) := by
  intro encodes
  refine encodes.noFraction ⟨n.repr.toList, ?_⟩
  rw [text_of_short value large short, String.toList_append]
  rfl

end Encoding

/-- **A whole double is encoded without a fraction, except in a gap.** From 2 to the power 53 up
to 10 to the power 16 the text is the number with `.0` behind it. -/
theorem encodesWhole_ofDouble_iff (double : Double) (n : Int) (value : double.value = n) :
    (EncodesWhole n (ofDouble double) ↔ ¬ (2 ^ 53 ≤ n.natAbs ∧ n.natAbs < 10 ^ 16)) ∧
      (2 ^ 53 ≤ n.natAbs → n.natAbs < 10 ^ 16 → (ofDouble double).text = n.repr ++ ".0") := by
  refine ⟨⟨?_, ?_⟩, text_of_short value⟩
  · rintro encodes ⟨large, short⟩
    exact not_encodesWhole_of_short value large short encodes
  · intro outside
    rcases Nat.lt_or_ge n.natAbs (2 ^ 53) with small | large
    · exact encodesWhole_of_small value small
    · exact encodesWhole_of_long value (Nat.le_of_not_lt fun short => outside ⟨large, short⟩)

/-- The least double of a whole number above the safe integers. -/
def firstUnsafe : Double := .ofWhole (2 ^ 53) (by decide +kernel) (by decide +kernel)

theorem value_firstUnsafe : firstUnsafe.value = ((2 ^ 53 : Int) : ℚ) := Double.value_ofWhole _ _

/-- The gap starts with 2 to the power 53, and minus 10 to the power 16 is past it. -/
theorem encodesWhole_ofDouble_iff_ends :
    (ofDouble firstUnsafe).text = (2 ^ 53 : Int).repr ++ ".0" ∧
      EncodesWhole (-10 ^ 16)
        (ofDouble (.ofWhole (-10 ^ 16) (by decide +kernel) (by decide +kernel))) := by
  constructor
  · exact (encodesWhole_ofDouble_iff firstUnsafe _ value_firstUnsafe).2 (by decide) (by decide)
  · exact (encodesWhole_ofDouble_iff _ _ (Double.value_ofWhole _ _)).1.mpr (by decide)

/-- At the start of the gap a whole number is written with a fraction. -/
theorem not_encodesWhole_firstUnsafe :
    firstUnsafe.value = ((2 ^ 53 : Int) : ℚ) ∧
      (ofDouble firstUnsafe).text = "9007199254740992.0" ∧
      ¬ EncodesWhole (2 ^ 53) (ofDouble firstUnsafe) := by
  refine ⟨value_firstUnsafe, ?_, ?_⟩
  · exact text_of_short value_firstUnsafe (by decide) (by decide)
  · exact not_encodesWhole_of_short value_firstUnsafe (by decide) (by decide)

end Json

end GraphSelect
