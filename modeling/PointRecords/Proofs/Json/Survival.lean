import PointRecords.Proofs.Binary.Ends
import PointRecords.Proofs.Decimal.Significant
import PointRecords.Proofs.Json.NearMisses

/-!
# Coordinates survive being read in double precision

The shortest decimal of a coordinate is scaled in double precision and rounded to
single precision again.  A result that is another magnitude would lie beyond an end of
the span, and the decimal next to that end.  A decimal of nine digits is too near to its
magnitude for that; one that meets the end is kept exactly by double precision; and one
that nearly misses it is harmless.
-/

namespace PointRecords.Json

open Decimal Binary Format NearMiss

theorem halvesInOne_single : Format.single.halvesInOne = 2 ^ 150 := by
  decide +kernel

theorem fractions_single : Format.single.fractions = 2 ^ 23 := by
  decide +kernel

theorem units_infinity_single : Format.single.units Format.single.infinity = 2 ^ 277 := by
  decide +kernel

/-- A number that rounds to a coordinate other than zero is neither too small nor too
large for eight digits and an exponent in reach. -/
theorem bounds_of_roundsTo {number : ℚ} {magnitude : Nat} (positive : 0 < magnitude)
    (finite : magnitude < Format.single.infinity)
    (rounds : Format.single.RoundsTo number magnitude) :
    10 ^ (-46 : Int) < number ∧ number < 10 ^ (39 : Int) := by
  have low := rounds.low_le
  have high := rounds.le_high
  have lowPos : 1 ≤ (Format.single.span magnitude).low :=
    Nat.add_pos_right _ (Format.single.units_pos positive)
  have highLe : (Format.single.span magnitude).high ≤ 2 ^ 150 * 2 ^ 128 := by
    have first := Format.single.units_strictMono finite
    have second : Format.single.units (magnitude + 1) ≤ Format.single.units Format.single.infinity :=
      Format.single.units_strictMono.monotone finite
    rw [units_infinity_single] at first second
    change Format.single.units magnitude + Format.single.units (magnitude + 1) ≤ _
    omega
  have lowRat : (1 : ℚ) ≤ (Format.single.span magnitude).low := by exact_mod_cast lowPos
  have highRat : ((Format.single.span magnitude).high : ℚ) ≤ 2 ^ 150 * 2 ^ 128 := by
    exact_mod_cast highLe
  rw [halvesInOne_single] at low high
  norm_num at low high ⊢
  constructor <;> linarith

/-- The distance of two numbers from each other, in half units. -/
theorem abs_sub_mul_halves (first second : ℚ) :
    |first * Format.single.halvesInOne - second * Format.single.halvesInOne| =
      |first - second| * Format.single.halvesInOne := by
  rw [← sub_mul, abs_mul, Nat.abs_cast]

/-- A number that is as near to its magnitude as nine digits bring it is not next to an
end. -/
theorem not_next_to_ending {number : ℚ} {magnitude below : Nat} (positive : 0 < magnitude)
    (numberPos : 0 < number)
    (precise : |number - Format.single.real magnitude| ≤ number / 10 ^ 8)
    (endsAt : EndsAt magnitude below) :
    ¬ |number * Format.single.halvesInOne - Format.single.ending below| ≤
      number * Format.single.halvesInOne / 2 ^ 51 := by
  intro next
  have halvesPos := Format.single.cast_halvesInOne_pos
  have gapLe := Format.single.gap_le_abs_ending_sub positive endsAt
  have middleLe := Format.single.middle_le_gap positive
  have near := mul_le_mul_of_nonneg_right precise halvesPos.le
  rw [← abs_sub_mul_halves, real_mul_halvesInOne, div_mul_eq_mul_div] at near
  rw [fractions_single] at middleLe
  set halves := number * Format.single.halvesInOne
  set middle := ((Format.single.span magnitude).middle : ℚ)
  have halvesNumberPos : 0 < halves := mul_pos numberPos halvesPos
  have apart : |middle - Format.single.ending below| ≤ halves / 10 ^ 8 + halves / 2 ^ 51 := by
    calc |middle - Format.single.ending below|
        ≤ |middle - halves| + |halves - Format.single.ending below| := abs_sub_le _ _ _
      _ ≤ halves / 10 ^ 8 + halves / 2 ^ 51 := by
          rw [abs_sub_comm middle]
          exact add_le_add near next
  have middleGe := (abs_le.mp near).2
  norm_num at middleLe
  linarith

/-- A decimal without trailing zeros meets an end only with a small power of ten: on one
of the two sides the power of five is a factor of a small number. -/
theorem natAbs_le_of_meets {significand coefficient place : Nat} {exponent : Int}
    (positive : 0 < significand) (significandLt : significand < 10 ^ 8)
    (coefficientLt : coefficient < 2 ^ 25)
    (meets : (significand : ℚ) * 10 ^ exponent * 2 ^ 150 = (coefficient * 2 ^ place : Nat)) :
    exponent.natAbs ≤ 22 := by
  have small : ∀ {number places : Nat}, 0 < number → number < 5 ^ 23 → 5 ^ places ∣ number →
      places ≤ 22 := by
    intro number places numberPos numberLt divides
    have le := Nat.le_of_dvd numberPos divides
    exact Nat.lt_succ_iff.mp ((Nat.pow_lt_pow_iff_right (by decide)).mp (le.trans_lt numberLt))
  have coprime : ∀ places twos : Nat, Nat.Coprime (5 ^ places) (2 ^ twos) :=
    fun places twos => Nat.Coprime.pow _ _ (by decide)
  rcases le_total 0 exponent with nonneg | nonpos
  · obtain ⟨places, rfl⟩ := Int.eq_ofNat_of_zero_le nonneg
    have whole : significand * 10 ^ places * 2 ^ 150 = coefficient * 2 ^ place := by
      rw [zpow_natCast] at meets
      exact_mod_cast meets
    have divides : 5 ^ places ∣ coefficient * 2 ^ place := by
      rw [← whole, show (10 : Nat) = 5 * 2 by rfl, mul_pow]
      exact Dvd.intro (significand * 2 ^ places * 2 ^ 150) (by ring)
    have coefficientPos : 0 < coefficient := by
      rcases Nat.eq_zero_or_pos coefficient with zero | coefficientPos
      · rw [zero, Nat.zero_mul] at whole
        have : 0 < significand * 10 ^ places * 2 ^ 150 := by positivity
        omega
      · exact coefficientPos
    exact small coefficientPos (coefficientLt.trans (by decide))
      ((coprime places place).dvd_of_dvd_mul_right divides)
  · obtain ⟨places, placesEq⟩ := Int.eq_ofNat_of_zero_le (Int.neg_nonneg_of_nonpos nonpos)
    obtain rfl : exponent = -(places : Int) := by omega
    have whole : significand * 2 ^ 150 = coefficient * 2 ^ place * 10 ^ places := by
      have power : (10 : ℚ) ^ (-(places : Int)) * 10 ^ places = 1 := by
        rw [zpow_neg, zpow_natCast, inv_mul_cancel₀ (by positivity)]
      have product : (significand : ℚ) * 2 ^ 150 = (coefficient * 2 ^ place : Nat) * 10 ^ places := by
        rw [← meets]
        linear_combination (-(significand : ℚ) * 2 ^ 150) * power
      exact_mod_cast product
    have divides : 5 ^ places ∣ significand * 2 ^ 150 := by
      rw [whole, show (10 : Nat) = 5 * 2 by rfl, mul_pow]
      exact Dvd.intro (coefficient * 2 ^ place * 2 ^ places) (by ring)
    have bound := small positive (significandLt.trans (by decide))
      ((coprime places 150).dvd_of_dvd_mul_right divides)
    omega

theorem isShort_of_meets {number : ℚ} {coefficient place : Nat} (coefficientLt : coefficient < 2 ^ 25)
    (placeLt : place < 254) (meets : number * 2 ^ 150 = (coefficient * 2 ^ place : Nat)) :
    Format.double.IsShort number := by
  refine Numeral.isShort_double (coefficientLt.trans (by norm_num)) (by omega : place + 924 ≤ 2000) ?_
  rw [pow_add 2 place, ← Nat.mul_assoc, Nat.cast_mul, ← meets, Nat.cast_pow, Nat.cast_ofNat, mul_assoc,
    ← pow_add]

/-- What is known of the digits that are written for a magnitude. -/
structure IsWritten (magnitude significand : Nat) (exponent : Int) : Prop where
  stripped : significand % 10 ≠ 0
  roundsTo : Format.single.RoundsTo (significand * 10 ^ exponent) magnitude
  le : significand ≤ 10 ^ 9
  shortOrPrecise : (significand < 10 ^ 8 ∧ (10 ^ 7 ≤ significand → IsFound significand exponent)) ∨
    |significand * 10 ^ exponent - Format.single.real magnitude| ≤
      significand * 10 ^ exponent / 10 ^ 8

/-- What is written for a magnitude is its shortest decimal without trailing zeros.  From
one that still has eight digits no zero has been taken off. -/
theorem isWritten_shortest {magnitude : Nat} (positive : 0 < magnitude)
    (finite : magnitude < Format.single.infinity) :
    let decimal := Format.single.shortest .even magnitude
    IsWritten magnitude (value decimal.significant)
      (decimal.leading + 1 - decimal.significant.length) := by
  intro decimal
  obtain ⟨length, lengthPos, lengthLe, isFound, -⟩ :=
    shortest_spec .even positive suffices_single
  have known := found_of_decimalOfLength? positive lengthPos isFound
  change Format.Found _ _ _ decimal at known
  have coefficientLe : decimal.coefficient ≤ 10 ^ 9 :=
    known.coefficient_le.trans (Nat.pow_le_pow_right (by decide) lengthLe)
  have nonzero : decimal.coefficient ≠ 0 := by
    have := known.coefficient_ge
    have : 0 < 10 ^ (length - 1) := by positivity
    omega
  obtain ⟨places, -, valueEq, placeEq⟩ := Scientific.significant_spec nonzero
  have realEq := Scientific.value_significant decimal
  have stripped := Scientific.value_significant_mod_ten nonzero
  have rounds := realEq ▸ known.roundsTo
  have le : value decimal.significant ≤ decimal.coefficient :=
    valueEq ▸ Nat.le_mul_of_pos_right _ (by positivity)
  refine ⟨stripped, rounds, le.trans coefficientLe, ?_⟩
  rcases Nat.lt_or_ge (10 ^ 8) decimal.coefficient with long | short
  · right
    rw [realEq]
    refine known.near.trans ?_
    have longRat : (10 : ℚ) ^ 8 ≤ decimal.coefficient := by exact_mod_cast long.le
    rw [Scientific.real, le_div_iff₀ (by positivity), mul_comm]
    exact mul_le_mul_of_nonneg_right longRat (by positivity)
  · left
    refine ⟨by omega, fun large => ?_⟩
    obtain rfl : places = 0 := by
      by_contra some
      have ten : 10 ^ 1 ≤ 10 ^ places := Nat.pow_le_pow_right (by decide) (Nat.pos_of_ne_zero some)
      have := valueEq ▸ Nat.mul_le_mul_left (value decimal.significant) ten
      omega
    rw [pow_zero, Nat.mul_one] at valueEq
    rw [Nat.cast_zero, add_zero] at placeEq
    rw [decimalOfLength?_eq, Option.map_eq_some_iff] at isFound
    obtain ⟨coefficient, isMultiple, decimalEq⟩ := isFound
    change _ = decimal at decimalEq
    have magnitudeEq := (ofDecimal_eq_iff isProper_single finite _ _).mpr rounds
    rw [IsFound, magnitudeEq, placeEq, ← valueEq, ← decimalEq]
    exact isMultiple

theorem exponent_bounds {significand digits : Nat} {exponent : Int} (positive : 0 < significand)
    (le : significand ≤ 10 ^ digits) (large : 10 ^ (-46 : Int) < (significand : ℚ) * 10 ^ exponent)
    (small : (significand : ℚ) * 10 ^ exponent < 10 ^ (39 : Int)) :
    -46 < exponent + digits ∧ exponent < 39 := by
  have atLeast : (1 : ℚ) ≤ significand := by exact_mod_cast positive
  have atMost : (significand : ℚ) ≤ 10 ^ digits := by exact_mod_cast le
  constructor
  · refine (zpow_lt_zpow_iff_right₀ (by norm_num : (1 : ℚ) < 10)).mp (large.trans_le ?_)
    rw [zpow_add₀ (by norm_num), zpow_natCast, mul_comm]
    exact mul_le_mul_of_nonneg_left atMost (by positivity)
  · refine (zpow_lt_zpow_iff_right₀ (by norm_num : (1 : ℚ) < 10)).mp (lt_of_le_of_lt ?_ small)
    exact le_mul_of_one_le_left (by positivity) atLeast

/-- A significand next to an end that it does not meet comes near to it on the grids of
both. -/
theorem isNear_steps {significand coefficient place : Nat} {exponent : Int}
    (next : |(significand * 10 ^ exponent * Format.single.halvesInOne : ℚ) -
        (coefficient * 2 ^ place : Nat)| ≤
      significand * 10 ^ exponent * Format.single.halvesInOne / 2 ^ 51)
    (misses : (significand * 10 ^ exponent * Format.single.halvesInOne : ℚ) ≠
      (coefficient * 2 ^ place : Nat)) :
    (⟨significand, coefficient⟩ : Counts).IsNear (steps exponent place) := by
  have denominatorPos : (0 : ℚ) < gridDenominator exponent := by
    exact_mod_cast gridDenominator_pos exponent
  have decimal : ((significand * (steps exponent place).decimal : Nat) : ℚ) =
      significand * 10 ^ exponent * Format.single.halvesInOne * gridDenominator exponent := by
    have grid := Format.single.grid_eq exponent
    rw [div_eq_iff denominatorPos.ne'] at grid
    rw [steps, Nat.cast_mul, grid]
    ring
  have binary : ((coefficient * (steps exponent place).binary : Nat) : ℚ) =
      (coefficient * 2 ^ place : Nat) * gridDenominator exponent := by
    rw [steps]
    push_cast
    ring
  constructor
  · have apart : ((Counts.apart ⟨significand, coefficient⟩ (steps exponent place) : Nat) : ℚ) =
        |((significand * (steps exponent place).decimal : Nat) : ℚ) -
          (coefficient * (steps exponent place).binary : Nat)| := by
      have dist := congrArg (Int.cast : Int → ℚ) (dist_cast
        (significand * (steps exponent place).decimal) (coefficient * (steps exponent place).binary))
      rw [Int.cast_natCast, Int.cast_abs, Int.cast_sub, Int.cast_natCast, Int.cast_natCast] at dist
      exact dist
    have sharp : (sharpness : ℚ) = 2 ^ 51 := by norm_num [sharpness]
    have scaled := mul_le_mul_of_nonneg_right next denominatorPos.le
    have bound : (sharpness : ℚ) * (Counts.apart ⟨significand, coefficient⟩ (steps exponent place) : Nat) ≤
        (significand * (steps exponent place).decimal : Nat) := by
      rw [apart, decimal, binary, ← sub_mul, abs_mul, abs_of_pos denominatorPos, sharp]
      linarith
    exact_mod_cast bound
  · refine Nat.dist_pos_of_ne fun meets => misses ?_
    have meetsRat := congrArg (Nat.cast : Nat → ℚ) meets
    rw [decimal, binary] at meetsRat
    exact mul_right_cancel₀ denominatorPos.ne' meetsRat

/-- An end of a coordinate is an odd multiple of a power of two, by a number of
twenty-five binary digits unless the power is one. -/
theorem ending_single {magnitude : Nat} (finite : magnitude < Format.single.infinity) :
    ∃ coefficient place, Format.single.ending magnitude = coefficient * 2 ^ place ∧
      coefficient % 2 = 1 ∧ coefficient < 2 ^ 25 ∧ place < 254 ∧
      (place = 0 ∨ 2 ^ 24 < coefficient) := by
  obtain ⟨coefficient, endingEq, odd, coefficientLt, leading⟩ := Format.single.ending_eq magnitude
  rw [fractions_single] at coefficientLt leading endingEq
  refine ⟨coefficient, _, endingEq, odd, coefficientLt, ?_, leading⟩
  have bound := place_lt finite
  have exponents : Format.single.exponents = 256 := rfl
  rw [fractions_single] at bound
  omega

/-- The exponent of written digits stays in reach. -/
theorem IsWritten.bounds {magnitude significand : Nat} {exponent : Int}
    (written : IsWritten magnitude significand exponent) (positive : 0 < magnitude)
    (finite : magnitude < Format.single.infinity) :
    0 < significand ∧ significand < 2 ^ 53 ∧ exponent.natAbs ≤ 55 ∧
      (significand < 10 ^ 8 → -53 ≤ exponent ∧ exponent ≤ 38) := by
  have significandPos : 0 < significand :=
    Nat.pos_of_ne_zero fun zero => written.stripped (by simp [zero])
  obtain ⟨large, small⟩ := bounds_of_roundsTo positive finite written.roundsTo
  obtain ⟨low, high⟩ := exponent_bounds significandPos written.le large small
  refine ⟨significandPos, written.le.trans_lt (by norm_num), by omega, fun short => ?_⟩
  obtain ⟨lowShort, highShort⟩ := exponent_bounds significandPos short.le large small
  omega

theorem convert_single_eq_iff {double magnitude : Nat} (doubleFinite : double < Format.double.infinity)
    (finite : magnitude < Format.single.infinity) :
    Format.double.convert .single double = magnitude ↔
      Format.single.RoundsTo (Format.double.real double) magnitude := by
  rw [convert, if_pos doubleFinite,
    nearest_eq_iff_roundsTo isProper_single.hasFraction Format.double.unitsInOne_pos finite]
  rfl

/-- If scaling moves a decimal out of the span of its magnitude, the decimal is next
to an end of the span. -/
theorem exists_ending_next {magnitude significand : Nat} {exponent : Int} (positive : 0 < magnitude)
    (significandPos : 0 < significand) (fits : significand < 2 ^ 53)
    (exponentLe : exponent.natAbs ≤ 55)
    (rounds : Format.single.RoundsTo (significand * 10 ^ exponent) magnitude)
    (elsewhere : ¬ Format.single.RoundsTo
      (Format.double.real (Numeral.scaled significand exponent)) magnitude) :
    ∃ below, EndsAt magnitude below ∧
      |(significand * 10 ^ exponent * Format.single.halvesInOne : ℚ) -
          Format.single.ending below| ≤
        significand * 10 ^ exponent * Format.single.halvesInOne / 2 ^ 51 := by
  obtain ⟨-, moved⟩ := Numeral.abs_real_scaled_sub_le significandPos fits exponentLe
  obtain ⟨below, endsAt, between⟩ := exists_ending_between positive rounds elsewhere
  have halvesNonneg : (0 : ℚ) ≤ Format.single.halvesInOne := Nat.cast_nonneg _
  refine ⟨below, endsAt, between.trans ?_⟩
  rw [abs_sub_mul_halves, abs_sub_comm, mul_div_right_comm]
  exact mul_le_mul_of_nonneg_right moved halvesNonneg

/-- The digits that are written for a coordinate are read as this coordinate. -/
theorem convert_scaled {magnitude significand : Nat} {exponent : Int} (positive : 0 < magnitude)
    (finite : magnitude < Format.single.infinity)
    (written : IsWritten magnitude significand exponent) :
    Numeral.scaled significand exponent < Format.double.infinity ∧
      Format.double.convert .single (Numeral.scaled significand exponent) = magnitude := by
  obtain ⟨significandPos, fits, exponentLe, shortBounds⟩ := written.bounds positive finite
  obtain ⟨stripped, rounds, -, shortOrPrecise⟩ := written
  obtain ⟨finiteScaled, -⟩ := Numeral.abs_real_scaled_sub_le significandPos fits exponentLe
  refine ⟨finiteScaled, ?_⟩
  by_contra changed
  have elsewhere := (convert_single_eq_iff finiteScaled finite).not.mp changed
  obtain ⟨below, endsAt, next⟩ :=
    exists_ending_next positive significandPos fits exponentLe rounds elsewhere
  rcases shortOrPrecise with ⟨short, isFound⟩ | precise
  · have belowFinite : below < Format.single.infinity := by
      rcases endsAt with rfl | rfl
      · exact finite
      · omega
    obtain ⟨coefficient, place, endingEq, odd, coefficientLt, placeLt, leading⟩ :=
      ending_single belowFinite
    rw [endingEq] at next
    by_cases meets : (significand * 10 ^ exponent * Format.single.halvesInOne : ℚ) =
        (coefficient * 2 ^ place : Nat)
    · rw [halvesInOne_single, Nat.cast_pow, Nat.cast_ofNat] at meets
      have kept := Numeral.real_scaled_of_isShort fits
        (natAbs_le_of_meets significandPos short coefficientLt meets)
        (isShort_of_meets coefficientLt placeLt meets)
      exact elsewhere (kept ▸ rounds)
    · have near := isNear_steps next meets
      obtain ⟨low, high⟩ := shortBounds short
      rcases isHarmless_of_isNear low high placeLt near short.le coefficientLt leading with
        multiple | even | ⟨placePos, leadingLe⟩ | survives | ⟨many, notFound⟩
      · exact stripped multiple
      · exact Nat.zero_ne_one (even.symm.trans odd)
      · exact absurd leadingLe (not_le.mpr (leading.resolve_left placePos))
      · have magnitudeEq := (ofDecimal_eq_iff isProper_single finite _ _).mpr rounds
        exact changed (survives.trans magnitudeEq)
      · exact notFound (isFound many)
  · exact not_next_to_ending positive (by positivity) precise endsAt next

end PointRecords.Json
