import PointRecords.Proofs.Binary.Rounds

/-!
# Errors of rounding

A number with few binary digits is not changed by rounding.  Any other that is
neither too small nor too large for a full significand moves by at most half a
unit of its last binary place, so by a fixed part of itself.
-/

namespace PointRecords.Binary.Format

variable {format : Format}

/-- The number is large enough for a full significand, and its double is not too
large for the format. -/
structure IsNormal (format : Format) (number : ℚ) : Prop where
  large : format.fractions ≤ number * format.unitsInOne
  small : 2 * (number * format.unitsInOne) ≤ format.units format.infinity

theorem unboundedNearest_lt_infinity {numerator denominator : Nat}
    (small : format.units (format.unboundedNearest numerator denominator) <
      format.units format.infinity) :
    format.unboundedNearest numerator denominator < format.infinity :=
  format.units_strictMono.lt_iff_lt.mp small

/-- What is below infinity before the cut is the result. -/
theorem real_nearest {numerator denominator : Nat}
    (below : format.unboundedNearest (numerator * format.unitsInOne) denominator <
      format.infinity) :
    format.nearest numerator denominator < format.infinity ∧
      format.real (format.nearest numerator denominator) * format.unitsInOne =
        format.units (format.unboundedNearest (numerator * format.unitsInOne) denominator) := by
  have onePos := format.cast_unitsInOne_pos.ne'
  rw [nearest_eq_min, min_eq_right below.le]
  exact ⟨below, div_mul_cancel₀ _ onePos⟩

/-- Before the cut, rounding moves a quotient by at most half of its last binary
place. -/
theorem abs_units_unboundedNearest_sub_le (format : Format) (scaled : Nat) {denominator : Nat}
    (positive : 0 < denominator) :
    |(format.units (format.unboundedNearest scaled denominator) : ℚ) - scaled / denominator| ≤
      2 ^ ((scaled / denominator).log2 - format.fractionBits) / 2 := by
  rw [format.units_unboundedNearest scaled positive]
  obtain ⟨above, below, -⟩ := roundHalfEven_at_place scaled
    ((scaled / denominator).log2 - format.fractionBits) positive
  rw [abs_le]
  push_cast
  constructor <;> linarith

/-- The last binary place of a quotient is a fixed part of whatever is above it and
has a full significand. -/
theorem fractions_mul_place_le (format : Format) {scaled denominator : Nat}
    (positive : 0 < denominator) {bound : ℚ} (le : (scaled : ℚ) / denominator ≤ bound)
    (large : format.fractions ≤ bound) :
    format.fractions * 2 ^ ((scaled / denominator).log2 - format.fractionBits) ≤ bound := by
  obtain ⟨-, unshifted | leading⟩ := format.shifted_bounds scaled positive
  · simpa [unshifted] using large
  · exact leading.trans le

/-- Rounding to a finite magnitude moves a number by at most half of the last binary
place of any normal bound on it. -/
theorem abs_real_nearest_sub_le_of_lt {numerator denominator : Nat} (positive : 0 < denominator)
    (finite : format.nearest numerator denominator < format.infinity) {bound : ℚ}
    (le : (numerator : ℚ) / denominator ≤ bound)
    (large : format.fractions ≤ bound * format.unitsInOne) :
    |format.real (format.nearest numerator denominator) - (numerator : ℚ) / denominator| ≤
      bound / (2 * format.fractions) := by
  have onePos := format.cast_unitsInOne_pos
  have fractionsPos : (0 : ℚ) < format.fractions := by exact_mod_cast format.fractions_pos
  have moved := format.abs_units_unboundedNearest_sub_le (numerator * format.unitsInOne) positive
  have scale : ((numerator * format.unitsInOne : Nat) : ℚ) / denominator =
      numerator / denominator * format.unitsInOne := by
    push_cast
    ring
  have place := format.fractions_mul_place_le positive
    (scale.trans_le (mul_le_mul_of_nonneg_right le onePos.le)) large
  have below : format.unboundedNearest (numerator * format.unitsInOne) denominator <
      format.infinity := by
    rw [nearest_eq_min] at finite
    omega
  rw [scale, ← (real_nearest below).2, ← sub_mul, abs_mul, abs_of_pos onePos] at moved
  refine le_of_mul_le_mul_right (moved.trans ?_) onePos
  rw [div_mul_eq_mul_div, div_le_div_iff₀ two_pos (by positivity)]
  linarith

/-- A normal number is rounded to a finite magnitude, and moves by at most half of
its last binary place. -/
theorem abs_real_nearest_sub_le {numerator denominator : Nat} (positive : 0 < denominator)
    (normal : format.IsNormal ((numerator : ℚ) / denominator)) :
    format.nearest numerator denominator < format.infinity ∧
      |format.real (format.nearest numerator denominator) - (numerator : ℚ) / denominator| ≤
        (numerator : ℚ) / denominator / (2 * format.fractions) := by
  obtain ⟨large, small⟩ := normal
  have moved := format.abs_units_unboundedNearest_sub_le (numerator * format.unitsInOne) positive
  have scale : ((numerator * format.unitsInOne : Nat) : ℚ) / denominator =
      numerator / denominator * format.unitsInOne := by
    push_cast
    ring
  have place := format.fractions_mul_place_le positive scale.le large
  have fractionsPos : (1 : ℚ) ≤ format.fractions := by exact_mod_cast format.fractions_pos
  have fractionsPositive : (0 : ℚ) < format.fractions := by linarith
  have below : format.unboundedNearest (numerator * format.unitsInOne) denominator <
      format.infinity := by
    refine unboundedNearest_lt_infinity ?_
    rw [scale] at moved
    have halved := (abs_le.mp moved).2
    have placeLe := (le_mul_of_one_le_left (by positivity) fractionsPos).trans place
    have positiveUnits : (0 : ℚ) < numerator / denominator * format.unitsInOne :=
      fractionsPositive.trans_le large
    have : (format.units (format.unboundedNearest (numerator * format.unitsInOne) denominator) : ℚ) <
        format.units format.infinity := by linarith
    exact_mod_cast this
  have finite := (real_nearest below).1
  exact ⟨finite, abs_real_nearest_sub_le_of_lt positive finite le_rfl large⟩

theorem roundHalfEven_mul (numerator : Nat) {denominator : Nat} (positive : 0 < denominator) :
    roundHalfEven (denominator * numerator) denominator = numerator := by
  simp [roundHalfEven, positive]

/-- The number has no more binary digits than a significand holds. -/
def IsShort (format : Format) (number : ℚ) : Prop :=
  ∃ coefficient place : Nat, coefficient < 2 * format.fractions ∧
    number * format.unitsInOne = (coefficient * 2 ^ place : Nat) ∧
    coefficient * 2 ^ place < format.units format.infinity

theorem real_nearest_of_isShort {numerator denominator : Nat} (positive : 0 < denominator)
    (isShort : format.IsShort ((numerator : ℚ) / denominator)) :
    format.nearest numerator denominator < format.infinity ∧
      format.real (format.nearest numerator denominator) = (numerator : ℚ) / denominator := by
  obtain ⟨coefficient, place, short, wholeRat, fits⟩ := isShort
  have denominatorPos : (0 : ℚ) < denominator := by exact_mod_cast positive
  have whole : numerator * format.unitsInOne = denominator * (coefficient * 2 ^ place) := by
    rw [div_mul_eq_mul_div, div_eq_iff denominatorPos.ne'] at wholeRat
    rw [Nat.mul_comm denominator]
    exact_mod_cast wholeRat
  have unitsEq : format.units (format.unboundedNearest (numerator * format.unitsInOne) denominator) =
      coefficient * 2 ^ place := by
    rw [format.units_unboundedNearest _ positive, whole, Nat.mul_div_cancel_left _ positive]
    set shift := (coefficient * 2 ^ place).log2 - format.fractionBits with shiftDef
    have shiftLe : shift ≤ place := by
      rcases Nat.eq_zero_or_pos coefficient with zero | nonzero
      · simp [shiftDef, zero]
      · have fractions : format.fractions = 2 ^ format.fractionBits := rfl
        have below : coefficient * 2 ^ place < 2 ^ (format.fractionBits + 1 + place) := by
          rw [pow_add, pow_succ', ← fractions]
          exact (Nat.mul_lt_mul_right (Nat.two_pow_pos place)).mpr short
        have log := (Nat.log2_lt (by positivity)).mpr below
        omega
    obtain ⟨places, placeEq⟩ := Nat.exists_eq_add_of_le shiftLe
    have power : 2 ^ place = 2 ^ places * 2 ^ shift := by
      rw [← pow_add, Nat.add_comm, ← placeEq]
    rw [power]
    have split : denominator * (coefficient * (2 ^ places * 2 ^ shift)) =
        denominator * 2 ^ shift * (coefficient * 2 ^ places) := by ring
    rw [split, roundHalfEven_mul _ (Nat.mul_pos positive (Nat.two_pow_pos shift)), Nat.mul_assoc]
  obtain ⟨finite, realEq⟩ := real_nearest (unboundedNearest_lt_infinity (unitsEq ▸ fits))
  have onePos := format.cast_unitsInOne_pos
  refine ⟨finite, mul_right_cancel₀ onePos.ne' ?_⟩
  rw [realEq, unitsEq, wholeRat]

end PointRecords.Binary.Format
