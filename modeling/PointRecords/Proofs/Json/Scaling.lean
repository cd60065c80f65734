import PointRecords.Json.Numeral
import PointRecords.Proofs.Binary.Faithful

/-!
# Scaling in double precision

A significand that fits a double is scaled by one power of ten.  The power is
rounded and so is the product or quotient; together they move the number by less
than one part in two to the fifty-first.  Powers up to the twenty-second are not
rounded, and then a result with few binary digits is not either.
-/

namespace PointRecords.Json.Numeral

open Binary Format

theorem unitsInOne_double : Format.double.unitsInOne = 2 ^ 1074 := by
  decide +kernel

theorem units_infinity_double : Format.double.units Format.double.infinity = 2 ^ 2098 := by
  decide +kernel

theorem fractions_double : Format.double.fractions = 2 ^ 52 := by
  decide +kernel

/-- Every number between these bounds is normal in double precision. -/
theorem isNormal_double {number : ℚ} (large : 1 ≤ number * 2 ^ 250) (small : number ≤ 2 ^ 250) :
    Format.double.IsNormal number := by
  constructor
  · rw [fractions_double, unitsInOne_double]
    simp only [Nat.cast_pow, Nat.cast_ofNat]
    calc (2 : ℚ) ^ 52 ≤ 2 ^ 824 := pow_le_pow_right₀ one_le_two (by omega)
      _ ≤ number * 2 ^ 250 * 2 ^ 824 := le_mul_of_one_le_left (by positivity) large
      _ = number * 2 ^ 1074 := by rw [mul_assoc, ← pow_add]
  · rw [units_infinity_double, unitsInOne_double]
    simp only [Nat.cast_pow, Nat.cast_ofNat]
    calc 2 * (number * 2 ^ 1074) ≤ 2 * (2 ^ 250 * 2 ^ 1074) := by
          refine mul_le_mul_of_nonneg_left ?_ two_pos.le
          exact mul_le_mul_of_nonneg_right small (by positivity)
      _ = 2 ^ 1325 := by rw [← pow_add, ← pow_succ']
      _ ≤ 2 ^ 2098 := pow_le_pow_right₀ one_le_two (by omega)

/-- One rounding moves a number by at most one part in two to the fifty-third. -/
theorem abs_real_nearest_double_sub_le {numerator denominator : Nat} (positive : 0 < denominator)
    (large : 1 ≤ (numerator : ℚ) / denominator * 2 ^ 250)
    (small : (numerator : ℚ) / denominator ≤ 2 ^ 250) :
    Format.double.nearest numerator denominator < Format.double.infinity ∧
      |Format.double.real (Format.double.nearest numerator denominator) -
          (numerator : ℚ) / denominator| ≤ (numerator : ℚ) / denominator / 2 ^ 53 := by
  have moved := abs_real_nearest_sub_le positive (isNormal_double large small)
  rw [fractions_double, Nat.cast_pow, Nat.cast_ofNat, ← pow_succ'] at moved
  exact moved

theorem isShort_double {number : ℚ} {coefficient place : Nat} (short : coefficient < 2 ^ 53)
    (placeLe : place ≤ 2000) (equal : number * 2 ^ 1074 = (coefficient * 2 ^ place : Nat)) :
    Format.double.IsShort number := by
  refine ⟨coefficient, place, ?_, ?_, ?_⟩
  · rw [fractions_double]
    exact short.trans_eq (pow_succ' 2 52)
  · rw [unitsInOne_double, ← equal, Nat.cast_pow, Nat.cast_ofNat]
  · calc coefficient * 2 ^ place < 2 ^ 53 * 2 ^ place :=
          (Nat.mul_lt_mul_right (by positivity)).mpr short
      _ = 2 ^ (53 + place) := (pow_add 2 _ _).symm
      _ ≤ 2 ^ 2098 := pow_le_pow_right₀ one_le_two (by omega)
      _ = Format.double.units Format.double.infinity := units_infinity_double.symm

/-- Whole numbers with few binary digits are short. -/
theorem isShort_double_of_whole {coefficient place : Nat} (short : coefficient < 2 ^ 53)
    (placeLe : place ≤ 900) : Format.double.IsShort (coefficient * 2 ^ place) := by
  refine isShort_double short (by omega : place + 1074 ≤ 2000) ?_
  rw [pow_add]
  simp only [Nat.cast_mul, Nat.cast_pow, Nat.cast_ofNat, mul_assoc]

theorem real_ofNat {significand : Nat} (fits : significand < 2 ^ 53) :
    Format.double.real (Format.double.ofNat significand) = significand := by
  have isShort := isShort_double_of_whole fits (Nat.zero_le 900)
  have whole : (significand : ℚ) * 2 ^ 0 = (significand : ℚ) / (1 : Nat) := by simp
  rw [whole] at isShort
  have kept := (real_nearest_of_isShort one_pos isShort).2
  rwa [Nat.cast_one, div_one] at kept

/-- The power of ten that a number is scaled by. -/
def power (exponent : Int) : Nat :=
  Format.double.ofNat (Nat.pow 10 exponent.natAbs)

def scaled (significand : Nat) (exponent : Int) : Nat :=
  if 0 ≤ exponent then Format.double.product (Format.double.ofNat significand) (power exponent)
  else Format.double.quotient (Format.double.ofNat significand) (power exponent)

theorem scaled_lt_magnitudes (significand : Nat) (exponent : Int) :
    scaled significand exponent < Format.double.magnitudes := by
  unfold scaled
  split <;> exact nearest_lt_magnitudes _ _ _

theorem ofInt_natCast (number : Nat) : (Pattern.ofInt number : Pattern .double) =
    ⟨false, Format.double.ofNat number, nearest_lt_magnitudes _ _ _⟩ := by
  simp [Pattern.ofInt, Pattern.round, Format.ofNat]

theorem ofInt_scaled (significand : Nat) (exponent : Int) :
    (if 0 ≤ exponent then
        (Pattern.ofInt significand : Pattern .double).product (powerOfTen exponent.natAbs)
      else (Pattern.ofInt significand : Pattern .double).quotient (powerOfTen exponent.natAbs)) =
      ⟨false, scaled significand exponent, scaled_lt_magnitudes significand exponent⟩ := by
  have power : powerOfTen exponent.natAbs =
      ⟨false, power exponent, nearest_lt_magnitudes _ _ _⟩ := ofInt_natCast _
  rw [ofInt_natCast, power]
  unfold scaled
  split <;> rfl

/-- One product or quotient, if it is finite. -/
theorem scaleBy_ofInt_eq {significand : Nat} {exponent : Int} (near : exponent.natAbs ≤ 308) :
    scaleBy (.ofInt significand) exponent =
      if scaled significand exponent < Format.double.infinity then
        some ⟨false, scaled significand exponent, scaled_lt_magnitudes significand exponent⟩
      else none := by
  rw [scaleBy, if_pos near, ofInt_scaled]
  simp [Pattern.isFinite]

theorem scaleBy_ofInt {significand : Nat} {exponent : Int} (near : exponent.natAbs ≤ 308)
    (finite : scaled significand exponent < Format.double.infinity) :
    ∃ bound, scaleBy (.ofInt significand) exponent =
      some ⟨false, scaled significand exponent, bound⟩ :=
  ⟨_, by rw [scaleBy_ofInt_eq near, if_pos finite]⟩

/-- The number scaled by a power, or by its inverse. -/
def applied (exponent : Int) (number power : ℚ) : ℚ :=
  if 0 ≤ exponent then number * power else number / power

theorem applied_pow (exponent : Int) (number : ℚ) :
    applied exponent number (10 ^ exponent.natAbs) = number * 10 ^ exponent := by
  unfold applied
  split
  · rename_i nonneg
    obtain ⟨places, rfl⟩ := Int.eq_ofNat_of_zero_le nonneg
    simp
  · rename_i negative
    obtain ⟨places, placesEq⟩ := Int.eq_ofNat_of_zero_le (by omega : 0 ≤ -exponent)
    obtain rfl : exponent = -(places : Int) := by omega
    simp [div_eq_mul_inv]

/-- The scaled significand is one quotient, rounded. -/
theorem exists_scaled_eq_nearest (significand : Nat) {exponent : Int}
    (positive : 0 < power exponent) :
    ∃ numerator denominator, 0 < denominator ∧
      scaled significand exponent = Format.double.nearest numerator denominator ∧
      (numerator : ℚ) / denominator =
        applied exponent (Format.double.real (Format.double.ofNat significand))
          (Format.double.real (power exponent)) := by
  have onePos := Format.double.cast_unitsInOne_pos.ne'
  unfold scaled applied
  split
  · refine ⟨_, _, Nat.mul_pos Format.double.unitsInOne_pos Format.double.unitsInOne_pos, rfl, ?_⟩
    simp only [real, Nat.cast_mul]
    field_simp
  · refine ⟨_, _, Format.double.units_pos positive, rfl, ?_⟩
    simp only [real]
    field_simp

/-- The last power of ten that is used is below the end of double precision. -/
theorem last_power_lt {last : Nat} (isLast : last = 308) :
    10 ^ last * Format.double.halvesInOne <
      (Format.double.span (Format.double.infinity - 1)).high := by
  subst isLast
  decide +kernel

/-- Whole numbers up to that power are finite. -/
theorem ofNat_lt_infinity {number places : Nat} (near : places ≤ 308)
    (le : number ≤ 10 ^ places) :
    Format.double.ofNat number < Format.double.infinity := by
  obtain ⟨last, isLast⟩ : ∃ last, last = 308 := ⟨_, rfl⟩
  have numberLe : number ≤ 10 ^ last :=
    le.trans (Nat.pow_le_pow_right (by decide) (isLast ▸ near))
  have below : ((number : ℚ) / (1 : Nat)) * Format.double.halvesInOne <
      (Format.double.span (Format.double.infinity - 1)).high := by
    rw [Nat.cast_one, div_one]
    exact_mod_cast (Nat.mul_le_mul_right _ numberLe).trans_lt (last_power_lt isLast)
  have leLast := nearest_le_of_lt_high isProper_double.hasFraction one_pos below
  have infinityPos : 0 < Format.double.infinity := by decide +kernel
  exact leLast.trans_lt (Nat.sub_lt infinityPos one_pos)

theorem power_lt_infinity {exponent : Int} (near : exponent.natAbs ≤ 308) :
    power exponent < Format.double.infinity :=
  ofNat_lt_infinity near le_rfl

theorem fractions_le_mul_unitsInOne {number : ℚ} (atLeast : 1 ≤ number) :
    Format.double.fractions ≤ number * Format.double.unitsInOne := by
  rw [fractions_double, unitsInOne_double]
  simp only [Nat.cast_pow, Nat.cast_ofNat]
  calc (2 : ℚ) ^ 52 ≤ 2 ^ 1074 := pow_le_pow_right₀ one_le_two (by omega)
    _ ≤ number * 2 ^ 1074 := le_mul_of_one_le_left (by positivity) atLeast

/-- A whole number that is finite in double precision moves by at most one part in two
to the fifty-third. -/
theorem abs_real_ofNat_sub_le {number : Nat}
    (finite : Format.double.ofNat number < Format.double.infinity) :
    |Format.double.real (Format.double.ofNat number) - number| ≤ number / 2 ^ 53 := by
  rcases Nat.eq_zero_or_pos number with rfl | positive
  · have isZero : Format.double.ofNat 0 = 0 := by decide +kernel
    simp [isZero]
  · have atLeast : (1 : ℚ) ≤ number := by exact_mod_cast positive
    have whole : (number : ℚ) / (1 : Nat) = number := by simp
    have moved := abs_real_nearest_sub_le_of_lt one_pos finite whole.le
      (fractions_le_mul_unitsInOne atLeast)
    rwa [whole, fractions_double, Nat.cast_pow, Nat.cast_ofNat, ← pow_succ'] at moved

/-- The power of ten moves by less than one part in two to the fifty-third. -/
theorem abs_real_power_sub_le {exponent : Int} (near : exponent.natAbs ≤ 308) :
    |Format.double.real (power exponent) - 10 ^ exponent.natAbs| ≤
      10 ^ exponent.natAbs / 2 ^ 53 := by
  have moved := abs_real_ofNat_sub_le (power_lt_infinity near)
  simpa [power] using moved

/-- Small powers of ten are kept. -/
theorem real_power {exponent : Int} (small : exponent.natAbs ≤ 22) :
    Format.double.real (power exponent) = 10 ^ exponent.natAbs := by
  have short : Format.double.IsShort ((5 ^ exponent.natAbs : Nat) * 2 ^ exponent.natAbs) := by
    refine isShort_double_of_whole ?_ (by omega)
    exact (Nat.pow_le_pow_right (by decide) small).trans_lt (by decide)
  have product : (((5 ^ exponent.natAbs : Nat) : ℚ) * 2 ^ exponent.natAbs) =
      ((10 ^ exponent.natAbs : Nat) : ℚ) / (1 : Nat) := by
    rw [Nat.cast_one, div_one, Nat.cast_pow, Nat.cast_pow, Nat.cast_ofNat, ← mul_pow]
    norm_num
  rw [product] at short
  have kept := (real_nearest_of_isShort one_pos short).2
  rw [Nat.cast_one, div_one, Nat.cast_pow, Nat.cast_ofNat] at kept
  exact kept

theorem power_pos {exponent : Int} (near : exponent.natAbs ≤ 308) : 0 < power exponent := by
  rcases Nat.eq_zero_or_pos (power exponent) with zero | positive
  · have moved := abs_real_power_sub_le near
    have atLeast : (1 : ℚ) ≤ 10 ^ exponent.natAbs := one_le_pow₀ (by norm_num)
    rw [zero, real_zero, zero_sub, abs_neg, abs_of_nonneg (by positivity)] at moved
    linarith
  · exact positive

/-- Scaling by a power that has moved moves the result by not much more. -/
theorem abs_applied_sub_le (exponent : Int) {number exact moved : ℚ} (nonneg : 0 ≤ number)
    (positive : 0 < exact) (near : |moved - exact| ≤ exact / 2 ^ 53) :
    |applied exponent number moved - applied exponent number exact| ≤
      applied exponent number exact / 2 ^ 52 := by
  unfold applied
  split
  · rw [← mul_sub, abs_mul, abs_of_nonneg nonneg, mul_div_assoc]
    refine mul_le_mul_of_nonneg_left (near.trans ?_) nonneg
    exact div_le_div_of_nonneg_left positive.le (by positivity) (by norm_num)
  · have half : exact / 2 ≤ moved := by
      have := (abs_le.mp near).1
      linarith
    have movedPos : 0 < moved := by linarith
    have difference : number / moved - number / exact =
        number / exact * ((exact - moved) / moved) := by
      field_simp
    rw [difference, abs_mul, abs_of_nonneg (by positivity), abs_div, abs_of_pos movedPos,
      abs_sub_comm, div_eq_mul_inv (number / exact)]
    refine mul_le_mul_of_nonneg_left ?_ (by positivity)
    rw [div_le_iff₀ movedPos]
    linarith

/-- Between these bounds a significand and its exponent stay far from the ends of
double precision. -/
theorem bounds_of_near {significand : Nat} {exponent : Int} (positive : 0 < significand)
    (fits : significand < 2 ^ 53) (near : exponent.natAbs ≤ 55) :
    1 ≤ (significand : ℚ) * 10 ^ exponent * 2 ^ 200 ∧
      (significand : ℚ) * 10 ^ exponent ≤ 2 ^ 240 := by
  have atLeast : (1 : ℚ) ≤ significand := by exact_mod_cast positive
  have atMost : (significand : ℚ) ≤ 2 ^ 53 := by exact_mod_cast fits.le
  constructor
  · have power : (10 : ℚ) ^ (-55 : Int) ≤ 10 ^ exponent :=
      zpow_le_zpow_right₀ (by norm_num) (by omega)
    calc (1 : ℚ) ≤ 1 * 10 ^ (-55 : Int) * 2 ^ 200 := by norm_num
      _ ≤ significand * 10 ^ exponent * 2 ^ 200 := by
          refine mul_le_mul_of_nonneg_right ?_ (by positivity)
          exact mul_le_mul atLeast power (by positivity) (by positivity)
  · have power : (10 : ℚ) ^ exponent ≤ 10 ^ (55 : Int) :=
      zpow_le_zpow_right₀ (by norm_num) (by omega)
    calc (significand : ℚ) * 10 ^ exponent ≤ 2 ^ 53 * 10 ^ (55 : Int) :=
          mul_le_mul atMost power (by positivity) (by positivity)
      _ ≤ 2 ^ 240 := by norm_num

/-- Scaling moves a number by at most one part in two to the fifty-first. -/
theorem abs_real_scaled_sub_le {significand : Nat} {exponent : Int} (positive : 0 < significand)
    (fits : significand < 2 ^ 53) (near : exponent.natAbs ≤ 55) :
    scaled significand exponent < Format.double.infinity ∧
      |Format.double.real (scaled significand exponent) - significand * 10 ^ exponent| ≤
        significand * 10 ^ exponent / 2 ^ 51 := by
  obtain ⟨numerator, denominator, denominatorPos, scaledEq, quotientEq⟩ :=
    exists_scaled_eq_nearest significand (power_pos (near.trans (by omega)))
  have powerMoved := abs_applied_sub_le exponent (Nat.cast_nonneg significand) (by positivity)
    (abs_real_power_sub_le (near.trans (by omega)))
  rw [real_ofNat fits] at quotientEq
  rw [applied_pow, ← quotientEq] at powerMoved
  obtain ⟨large, small⟩ := bounds_of_near positive fits near
  set number := (significand : ℚ) * 10 ^ exponent
  set quotient := (numerator : ℚ) / denominator
  have numberPos : 0 < number := by positivity
  obtain ⟨above, below⟩ := abs_le.mp powerMoved
  have quotientLarge : 1 ≤ quotient * 2 ^ 250 := by linarith
  have quotientSmall : quotient ≤ 2 ^ 250 := by linarith
  obtain ⟨finite, moved⟩ :=
    abs_real_nearest_double_sub_le denominatorPos quotientLarge quotientSmall
  rw [scaledEq]
  refine ⟨finite, ?_⟩
  calc |Format.double.real (Format.double.nearest numerator denominator) - number|
      ≤ |Format.double.real (Format.double.nearest numerator denominator) - quotient| +
          |quotient - number| := abs_sub_le _ _ _
    _ ≤ quotient / 2 ^ 53 + number / 2 ^ 52 := add_le_add moved powerMoved
    _ ≤ number / 2 ^ 51 := by linarith

/-- With a power of ten that is kept, scaling rounds the number itself. -/
theorem exists_scaled_eq_nearest_of_le {significand : Nat} {exponent : Int}
    (fits : significand < 2 ^ 53) (small : exponent.natAbs ≤ 22) :
    ∃ numerator denominator, 0 < denominator ∧
      scaled significand exponent = Format.double.nearest numerator denominator ∧
      (numerator : ℚ) / denominator = significand * 10 ^ exponent := by
  obtain ⟨numerator, denominator, denominatorPos, scaledEq, quotientEq⟩ :=
    exists_scaled_eq_nearest significand (power_pos (small.trans (by omega)))
  rw [real_ofNat fits, real_power small, applied_pow] at quotientEq
  exact ⟨numerator, denominator, denominatorPos, scaledEq, quotientEq⟩

/-- Then the result depends on the number only, however it is written. -/
theorem scaled_eq_scaled {first second : Nat} {firstExponent secondExponent : Int}
    (firstPos : 0 < first) (firstFits : first < 2 ^ 53) (secondFits : second < 2 ^ 53)
    (firstSmall : firstExponent.natAbs ≤ 22) (secondSmall : secondExponent.natAbs ≤ 22)
    (same : (first : ℚ) * 10 ^ firstExponent = second * 10 ^ secondExponent) :
    scaled first firstExponent = scaled second secondExponent := by
  have finite := (abs_real_scaled_sub_le firstPos firstFits (firstSmall.trans (by omega))).1
  obtain ⟨firstNumerator, firstDenominator, firstDenominatorPos, firstEq, firstQuotient⟩ :=
    exists_scaled_eq_nearest_of_le firstFits firstSmall
  obtain ⟨numerator, denominator, denominatorPos, scaledEq, quotient⟩ :=
    exists_scaled_eq_nearest_of_le secondFits secondSmall
  have rounds := (nearest_eq_iff_roundsTo isProper_double.hasFraction firstDenominatorPos
    finite).mp firstEq.symm
  rw [firstQuotient, same, ← quotient] at rounds
  rw [scaledEq]
  exact ((nearest_eq_iff_roundsTo isProper_double.hasFraction denominatorPos finite).mpr
    rounds).symm

/-- A short number that is reached with such a power is kept. -/
theorem real_scaled_of_isShort {significand : Nat} {exponent : Int}
    (fits : significand < 2 ^ 53) (small : exponent.natAbs ≤ 22)
    (isShort : Format.double.IsShort (significand * 10 ^ exponent)) :
    Format.double.real (scaled significand exponent) = significand * 10 ^ exponent := by
  obtain ⟨numerator, denominator, denominatorPos, scaledEq, quotientEq⟩ :=
    exists_scaled_eq_nearest_of_le fits small
  rw [← quotientEq] at isShort ⊢
  rw [scaledEq]
  exact (real_nearest_of_isShort denominatorPos isShort).2

end PointRecords.Json.Numeral
