import PointRecords.Proofs.Binary.Faithful
import PointRecords.Proofs.Json.Scaling

/-!
# Scaling by any power of ten

A significand of 64 bits is rounded before it is scaled, and where the power of ten is
out of reach it is scaled in steps.  Whatever comes out of this is near the number: up
to a fixed part of it, and up to an amount that is much smaller than every coordinate
but zero.  Far below, the steps only have to keep the number small.
-/

namespace PointRecords.Json.Numeral

open Binary Format

/-- Rounding to double precision moves a number by at most one part in two to the
fifty-third, and half a unit. -/
theorem abs_real_nearest_double_sub_le_add {numerator denominator : Nat}
    (positive : 0 < denominator)
    (finite : Format.double.nearest numerator denominator < Format.double.infinity) :
    |Format.double.real (Format.double.nearest numerator denominator) -
        (numerator : ℚ) / denominator| ≤ (numerator : ℚ) / denominator / 2 ^ 53 + 1 / 2 ^ 250 := by
  have nonneg : (0 : ℚ) ≤ numerator / denominator := by positivity
  have large : Format.double.fractions ≤
      ((numerator : ℚ) / denominator + 1 / 2 ^ 250) * Format.double.unitsInOne := by
    rw [fractions_double, unitsInOne_double]
    simp only [Nat.cast_pow, Nat.cast_ofNat]
    calc (2 : ℚ) ^ 52 = 1 / 2 ^ 250 * (2 ^ 250 * 2 ^ 52) := by
          rw [← mul_assoc, one_div_mul_cancel (by positivity), one_mul]
      _ ≤ 1 / 2 ^ 250 * 2 ^ 1074 := by
          rw [← pow_add]
          refine mul_le_mul_of_nonneg_left ?_ (by positivity)
          exact pow_le_pow_right₀ one_le_two (by omega)
      _ ≤ (numerator / denominator + 1 / 2 ^ 250) * 2 ^ 1074 :=
          mul_le_mul_of_nonneg_right (by linarith) (by positivity)
  have moved := abs_real_nearest_sub_le_of_lt positive finite
    (le_add_of_nonneg_right (by positivity)) large
  rw [fractions_double, Nat.cast_pow, Nat.cast_ofNat, ← pow_succ'] at moved
  refine moved.trans ?_
  rw [add_div]
  have shrunk : (1 : ℚ) / 2 ^ 250 / 2 ^ (52 + 1) ≤ 1 / 2 ^ 250 :=
    div_le_self (by positivity) (by norm_num)
  linarith

/-! ## Powers within reach -/

theorem ofNat_significand_lt_infinity {significand : Nat} (fits : significand < unsignedLimit) :
    Format.double.ofNat significand < Format.double.infinity :=
  ofNat_lt_infinity (by decide : 20 ≤ 308) (fits.le.trans (by decide))

/-- Scaling once moves the number by at most one part in two to the fiftieth, or by
almost nothing. -/
theorem abs_real_scaled_sub_le_add {significand : Nat} {exponent : Int}
    (fits : significand < unsignedLimit) (near : exponent.natAbs ≤ 308)
    (finite : scaled significand exponent < Format.double.infinity) :
    |Format.double.real (scaled significand exponent) - significand * 10 ^ exponent| ≤
      significand * 10 ^ exponent / 2 ^ 50 + 1 / 2 ^ 250 := by
  obtain ⟨numerator, denominator, positive, scaledEq, quotientEq⟩ :=
    exists_scaled_eq_nearest significand (power_pos near)
  rw [scaledEq] at finite ⊢
  have rounded := abs_real_nearest_double_sub_le_add positive finite
  have powerMoved := abs_applied_sub_le exponent (Format.double.real_nonneg
    (Format.double.ofNat significand)) (by positivity) (abs_real_power_sub_le near)
  rw [applied_pow, ← quotientEq] at powerMoved
  have placePos : (0 : ℚ) < 10 ^ exponent := by positivity
  have significandMoved := mul_le_mul_of_nonneg_right
    (abs_real_ofNat_sub_le (ofNat_significand_lt_infinity fits)) placePos.le
  rw [← abs_of_pos placePos, ← abs_mul, sub_mul, abs_of_pos placePos, div_mul_eq_mul_div]
    at significandMoved
  set quotient := (numerator : ℚ) / denominator
  set number := (significand : ℚ) * 10 ^ exponent
  have numberNonneg : 0 ≤ number := by positivity
  obtain ⟨roundedAbove, roundedBelow⟩ := abs_le.mp rounded
  obtain ⟨powerAbove, powerBelow⟩ := abs_le.mp powerMoved
  obtain ⟨significandAbove, significandBelow⟩ := abs_le.mp significandMoved
  rw [abs_le]
  constructor <;> linarith

/-! ## Powers out of reach -/

theorem nearest_le_of_le_real {numerator denominator magnitude : Nat} (positive : 0 < denominator)
    (le : (numerator : ℚ) / denominator ≤ Format.double.real magnitude) :
    Format.double.nearest numerator denominator ≤ magnitude := by
  have halvesPos := Format.double.cast_halvesInOne_pos
  refine nearest_le_of_lt_high isProper_double.hasFraction positive ?_
  refine (mul_le_mul_of_nonneg_right le halvesPos.le).trans_lt ?_
  rw [real_mul_halvesInOne]
  have gapPos := Format.double.gap_pos magnitude
  simp only [span, units_succ]
  exact_mod_cast (by omega : 2 * Format.double.units magnitude <
    Format.double.units magnitude + (Format.double.units magnitude + Format.double.gap magnitude))

/-- No power of ten is rounded below one. -/
theorem one_le_real_ofNat_power (places : Nat) :
    1 ≤ Format.double.real (Format.double.ofNat (Nat.pow 10 places)) := by
  have one := real_ofNat (by norm_num : 1 < 2 ^ 53)
  rw [Nat.cast_one] at one
  have faithful : Format.double.IsFaithful ((10 : ℚ) ^ places)
      (Format.double.nearest (Nat.pow 10 places) 1) := by
    have whole : ((Nat.pow 10 places : Nat) : ℚ) / (1 : Nat) = 10 ^ places := by simp
    exact whole ▸ isFaithful_nearest_self isProper_double.hasFraction one_pos
  have le := faithful.ge_of_ge (Format.double.ofNat 1) (by decide +kernel)
    (one.trans_le (one_le_pow₀ (by norm_num)))
  exact one.symm.trans_le (Format.double.real_strictMono.monotone le)

/-- Dividing by a power of ten makes no number larger. -/
theorem quotient_powerOfTen_le (number : Pattern .double) (places : Nat) :
    (number.quotient (powerOfTen places)).magnitude ≤ number.magnitude := by
  have powerEq : (powerOfTen places).magnitude = Format.double.ofNat (Nat.pow 10 places) :=
    congrArg Pattern.magnitude (ofInt_natCast _)
  have onePos := Format.double.cast_unitsInOne_pos
  have atLeastOne := one_le_real_ofNat_power places
  rw [Format.real, le_div_iff₀ onePos, one_mul] at atLeastOne
  have positive : 0 < Format.double.units (Format.double.ofNat (Nat.pow 10 places)) := by
    exact_mod_cast onePos.trans_le atLeastOne
  refine nearest_le_of_le_real (powerEq ▸ positive) ?_
  rw [powerEq]
  exact div_le_div_of_nonneg_left (Nat.cast_nonneg _) onePos atLeastOne

theorem scaleBy_le_of_near {number result : Pattern .double} {exponent : Int}
    (near : exponent.natAbs ≤ 308) (below : exponent < 0)
    (accepted : scaleBy number exponent = some result) :
    result.magnitude ≤ number.magnitude := by
  rw [scaleBy, if_pos near, if_neg (not_le.mpr below)] at accepted
  simp only at accepted
  split at accepted
  · cases accepted
    exact quotient_powerOfTen_le number _
  · cases accepted

/-- What a power of ten out of reach leaves: a zero, or the result of one more step. -/
theorem of_scaleBy_far {number result : Pattern .double} {exponent : Int}
    (far : ¬ exponent.natAbs ≤ 308) (accepted : scaleBy number exponent = some result) :
    number.magnitude = 0 ∧ result = number ∨
      number.magnitude ≠ 0 ∧ exponent < 0 ∧
        scaleBy (number.quotient (powerOfTen 308)) (exponent + 308) = some result := by
  rw [scaleBy, if_neg far] at accepted
  split at accepted
  · rename_i isZero
    cases accepted
    exact Or.inl ⟨isZero, rfl⟩
  · rename_i nonzero
    split at accepted
    · cases accepted
    · rename_i below
      exact Or.inr ⟨nonzero, not_le.mp below, accepted⟩

/-- Scaling down makes no number larger, however many steps it takes. -/
theorem scaleBy_le {number result : Pattern .double} {exponent : Int} (below : exponent < 0)
    (accepted : scaleBy number exponent = some result) :
    result.magnitude ≤ number.magnitude := by
  induction number, exponent using scaleBy.induct with
  | case1 number exponent near => exact scaleBy_le_of_near near below accepted
  | case2 number exponent near => exact scaleBy_le_of_near near below accepted
  | case3 number exponent far isZero =>
      rcases of_scaleBy_far far accepted with ⟨-, rfl⟩ | ⟨nonzero, -⟩
      · exact le_rfl
      · exact absurd isZero nonzero
  | case4 number exponent far nonzero above => omega
  | case5 number exponent far nonzero notAbove ih =>
      rcases of_scaleBy_far far accepted with ⟨isZero, -⟩ | ⟨-, -, step⟩
      · exact absurd isZero nonzero
      · exact (ih (by omega) step).trans (quotient_powerOfTen_le number 308)

theorem eq_zero_of_ofNat_eq_zero {significand : Nat} (fits : significand < unsignedLimit)
    (isZero : Format.double.ofNat significand = 0) : significand = 0 := by
  have moved := abs_real_ofNat_sub_le (ofNat_significand_lt_infinity fits)
  rw [isZero, real_zero, zero_sub, abs_neg, abs_of_nonneg (Nat.cast_nonneg _)] at moved
  have nonneg : (0 : ℚ) ≤ significand := Nat.cast_nonneg _
  exact_mod_cast (by linarith : (significand : ℚ) ≤ 0).antisymm nonneg

/-- So far below one, a significand of 64 bits makes next to nothing. -/
theorem significand_mul_le {significand : Nat} {exponent : Int} (fits : significand < unsignedLimit)
    (far : exponent ≤ -308) : (significand : ℚ) * 10 ^ exponent ≤ 1 / 2 ^ 250 := by
  have atMost : (significand : ℚ) ≤ 2 ^ 64 := by exact_mod_cast fits.le
  have power : (10 : ℚ) ^ exponent ≤ 10 ^ (-100 : Int) :=
    zpow_le_zpow_right₀ (by norm_num) (by omega)
  calc (significand : ℚ) * 10 ^ exponent ≤ 2 ^ 64 * 10 ^ (-100 : Int) :=
        mul_le_mul atMost power (by positivity) (by positivity)
    _ ≤ 1 / 2 ^ 250 := by norm_num

/-- What is left after the first of several steps. -/
theorem first_step {significand : Nat} {exponent : Int} (fits : significand < unsignedLimit)
    (isStep : exponent = -308) :
    ∃ magnitude, ((Pattern.ofInt significand : Pattern .double).quotient
        (powerOfTen 308)).magnitude = magnitude ∧
      magnitude < Format.double.infinity ∧ Format.double.real magnitude ≤ 1 / 2 ^ 240 := by
  have notAbove : ¬ 0 ≤ exponent := by omega
  have placesEq : exponent.natAbs = 308 := by omega
  have first := ofInt_scaled significand exponent
  rw [if_neg notAbove, placesEq] at first
  have finite : scaled significand exponent < Format.double.infinity := by
    have le := quotient_powerOfTen_le (.ofInt significand) 308
    rw [first, ofInt_natCast] at le
    exact le.trans_lt (ofNat_significand_lt_infinity fits)
  have near := (abs_le.mp (abs_real_scaled_sub_le_add fits placesEq.le finite)).2
  have numberLe := significand_mul_le fits isStep.le
  have tiny : (1 : ℚ) / 2 ^ 250 + 1 / 2 ^ 250 / 2 ^ 50 + 1 / 2 ^ 250 ≤ 1 / 2 ^ 240 := by norm_num
  refine ⟨scaled significand exponent, congrArg Pattern.magnitude first, finite, ?_⟩
  linarith

/-- However far a significand is scaled, a result is finite and near the number.  If there
are several steps, the first leaves next to nothing, and the others do not make it
larger. -/
theorem abs_real_scaleBy_sub_le {significand : Nat} {exponent : Int} {result : Pattern .double}
    (fits : significand < unsignedLimit)
    (accepted : scaleBy (.ofInt significand) exponent = some result) :
    result.magnitude < Format.double.infinity ∧
      |Format.double.real result.magnitude - significand * 10 ^ exponent| ≤
        significand * 10 ^ exponent / 2 ^ 50 + 1 / 2 ^ 200 := by
  have numberNonneg : (0 : ℚ) ≤ significand * 10 ^ exponent := by positivity
  by_cases near : exponent.natAbs ≤ 308
  · rw [scaleBy_ofInt_eq near] at accepted
    split at accepted
    · rename_i finite
      cases accepted
      refine ⟨finite, (abs_real_scaled_sub_le_add fits near finite).trans ?_⟩
      have : (1 : ℚ) / 2 ^ 250 ≤ 1 / 2 ^ 200 := by norm_num
      linarith
    · cases accepted
  · rcases of_scaleBy_far near accepted with ⟨isZero, rfl⟩ | ⟨-, below, step⟩
    · rw [ofInt_natCast] at isZero ⊢
      have zero := eq_zero_of_ofNat_eq_zero fits isZero
      refine ⟨ofNat_significand_lt_infinity fits, ?_⟩
      dsimp only at isZero ⊢
      rw [isZero, zero]
      norm_num
    · obtain ⟨magnitude, firstEq, firstFinite, firstSmall⟩ := first_step fits rfl
      have shrunk := scaleBy_le (by omega) step
      rw [firstEq] at shrunk
      have realLe := Format.double.real_strictMono.monotone shrunk
      have realNonneg := Format.double.real_nonneg result.magnitude
      have numberLe := significand_mul_le fits (by omega : exponent ≤ -308)
      have tiny : (1 : ℚ) / 2 ^ 250 + 1 / 2 ^ 240 ≤ 1 / 2 ^ 200 := by norm_num
      refine ⟨shrunk.trans_lt firstFinite, ?_⟩
      rw [abs_le]
      constructor <;> linarith

end PointRecords.Json.Numeral
