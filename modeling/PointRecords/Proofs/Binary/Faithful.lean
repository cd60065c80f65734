import Mathlib.Data.EReal.Operations
import PointRecords.Proofs.Binary.Ends
import PointRecords.Proofs.Binary.Errors

/-!
# Faithful results

A result is faithful to a number if no real of the format lies strictly between the
two, and if the number itself is the result wherever the format has it.  Rounding to
the nearest is faithful to the number that is rounded, and also to every other number
that is near enough to it: the ends of a span keep a fixed part of a unit away from
the reals of the format.
-/

namespace PointRecords.Binary

open Decimal

namespace Format

variable {format : Format}

/-! ## Magnitudes -/

/-- A magnitude lies between any two finite ones that have the number between
them. -/
structure IsFaithful (format : Format) (number : ℚ) (magnitude : Nat) : Prop where
  le_infinity : magnitude ≤ format.infinity
  le_of_le : ∀ other < format.infinity, number ≤ format.real other → magnitude ≤ other
  ge_of_ge : ∀ other < format.infinity, format.real other ≤ number → other ≤ magnitude

/-- Two results that are faithful to one number are the same or neighbours. -/
theorem IsFaithful.le_succ {number : ℚ} {first second : Nat}
    (faithfulFirst : format.IsFaithful number first)
    (faithfulSecond : format.IsFaithful number second) : first ≤ second + 1 := by
  have bound := faithfulFirst.le_infinity
  by_cases finite : second + 1 < format.infinity
  · rcases le_total number (format.real (second + 1)) with below | above
    · exact faithfulFirst.le_of_le _ finite below
    · have := faithfulSecond.ge_of_ge _ finite above
      omega
  · omega

theorem le_of_low_lt_high (format : Format) {first second : Nat}
    (touching : (format.span first).low < (format.span second).high) : first ≤ second := by
  by_contra greater
  have lower : format.units second ≤ format.units (first - 1) :=
    format.units_strictMono.monotone (by omega)
  have upper : format.units (second + 1) ≤ format.units first :=
    format.units_strictMono.monotone (by omega)
  simp only [span] at touching
  omega

section Nearest

variable {numerator denominator : Nat}

theorem covers_nearest (numerator : Nat) (hasFraction : 0 < format.fractionBits)
    (positive : 0 < denominator) :
    (format.span (format.unboundedNearest (numerator * format.unitsInOne) denominator)).Covers
      ((numerator : ℚ) / denominator * format.halvesInOne) := by
  have covers := covers_unboundedNearest hasFraction (numerator * format.unitsInOne) positive
  have scale : 2 * (((numerator * format.unitsInOne : Nat) : ℚ) / denominator) =
      (numerator : ℚ) / denominator * format.halvesInOne := by
    rw [halvesInOne]
    push_cast
    ring
  rwa [scale] at covers

/-- A quotient below the upper end of a span is not rounded beyond it. -/
theorem nearest_le_of_lt_high (hasFraction : 0 < format.fractionBits) (positive : 0 < denominator)
    {magnitude : Nat} (below : (numerator : ℚ) / denominator * format.halvesInOne <
      (format.span magnitude).high) :
    format.nearest numerator denominator ≤ magnitude := by
  have covers := covers_nearest numerator hasFraction positive
  rw [nearest_eq_min]
  have touching := covers.low_le.trans_lt below
  exact (min_le_right _ _).trans (format.le_of_low_lt_high (by exact_mod_cast touching))

/-- A quotient above the lower end of a span is not rounded below it. -/
theorem le_nearest_of_low_lt (hasFraction : 0 < format.fractionBits) (positive : 0 < denominator)
    {magnitude : Nat} (bounded : magnitude ≤ format.infinity)
    (above : (format.span magnitude).low < (numerator : ℚ) / denominator * format.halvesInOne) :
    magnitude ≤ format.nearest numerator denominator := by
  have covers := covers_nearest numerator hasFraction positive
  rw [nearest_eq_min]
  have touching := above.trans_le covers.le_high
  exact le_min bounded (format.le_of_low_lt_high (by exact_mod_cast touching))

end Nearest

/-- A real of the format, moved by a small part of itself and of a unit, stays below
the upper end of its span. -/
theorem moved_lt_high (format : Format) (magnitude : Nat) :
    ((format.span magnitude).middle : ℚ) +
        ((format.span magnitude).middle / (16 * format.fractions) + 1 / 4) <
      (format.span magnitude).high := by
  have fractionsPos : (0 : ℚ) < format.fractions := by exact_mod_cast format.fractions_pos
  have gapPos : (1 : ℚ) ≤ format.gap magnitude := by exact_mod_cast format.gap_pos magnitude
  have unitsLt : (format.units magnitude : ℚ) < 2 * format.fractions * format.gap magnitude := by
    exact_mod_cast format.units_lt_gap magnitude
  have part : ((2 * format.units magnitude : ℚ)) / (16 * format.fractions) <
      format.gap magnitude / 4 := by
    rw [div_lt_div_iff₀ (by positivity) (by norm_num)]
    linarith
  simp only [span, units_succ, Nat.cast_add, Nat.cast_mul, Nat.cast_ofNat]
  linarith

/-- It stays above the lower end, too. -/
theorem low_lt_moved (format : Format) {magnitude : Nat} (positive : 0 < magnitude) :
    ((format.span magnitude).low : ℚ) < (format.span magnitude).middle -
      ((format.span magnitude).middle / (16 * format.fractions) + 1 / 4) := by
  have fractionsPos : (1 : ℚ) ≤ format.fractions := by exact_mod_cast format.fractions_pos
  have gapPos : (1 : ℚ) ≤ format.gap (magnitude - 1) := by
    exact_mod_cast format.gap_pos (magnitude - 1)
  have middleLe := format.middle_le_gap positive
  have part : ((format.span magnitude).middle : ℚ) / (16 * format.fractions) ≤
      3 * format.gap (magnitude - 1) / 8 := by
    rw [div_le_div_iff₀ (by positivity) (by norm_num)]
    nlinarith
  have step := format.units_succ (magnitude - 1)
  rw [Nat.sub_add_cancel positive] at step
  have lowEq : ((format.span magnitude).low : ℚ) + format.gap (magnitude - 1) =
      (format.span magnitude).middle := by
    simp only [span]
    exact_mod_cast (by omega : format.units (magnitude - 1) + format.units magnitude +
      format.gap (magnitude - 1) = 2 * format.units magnitude)
  linarith

/-- Numbers that are near each other are so when counted in halves of a unit. -/
theorem abs_mul_halvesInOne_sub_le (format : Format) {moved number : ℚ}
    (near : |moved - number| ≤ number / (16 * format.fractions) + 1 / (8 * format.unitsInOne)) :
    |moved * format.halvesInOne - number * format.halvesInOne| ≤
      number * format.halvesInOne / (16 * format.fractions) + 1 / 4 := by
  have onePos := format.cast_unitsInOne_pos
  have fractionsPos : (0 : ℚ) < format.fractions := by exact_mod_cast format.fractions_pos
  have halvesPos := format.cast_halvesInOne_pos
  have halves : (format.halvesInOne : ℚ) = 2 * format.unitsInOne := by
    rw [halvesInOne]
    push_cast
    rfl
  rw [← sub_mul, abs_mul, abs_of_pos halvesPos]
  calc |moved - number| * format.halvesInOne
      ≤ (number / (16 * format.fractions) + 1 / (8 * format.unitsInOne)) * format.halvesInOne :=
        mul_le_mul_of_nonneg_right near halvesPos.le
    _ = number * format.halvesInOne / (16 * format.fractions) + 1 / 4 := by
        rw [halves]
        field_simp
        ring

/-- The nearest magnitude to a quotient is faithful to every number near it. -/
theorem isFaithful_nearest (hasFraction : 0 < format.fractionBits) {numerator denominator : Nat}
    (positive : 0 < denominator) {number : ℚ}
    (near : |(numerator : ℚ) / denominator - number| ≤
      number / (16 * format.fractions) + 1 / (8 * format.unitsInOne)) :
    format.IsFaithful number (format.nearest numerator denominator) := by
  have fractionsPos : (1 : ℚ) ≤ format.fractions := by exact_mod_cast format.fractions_pos
  have halvesPos := format.cast_halvesInOne_pos
  obtain ⟨above, below⟩ := abs_le.mp (format.abs_mul_halvesInOne_sub_le near)
  refine ⟨min_le_left _ _, fun other _ le => ?_, fun other finite ge => ?_⟩
  · have leMiddle := mul_le_mul_of_nonneg_right le halvesPos.le
    rw [real_mul_halvesInOne] at leMiddle
    have part : number * format.halvesInOne / (16 * format.fractions) ≤
        (format.span other).middle / (16 * format.fractions) :=
      div_le_div_of_nonneg_right leMiddle (by positivity)
    refine nearest_le_of_lt_high hasFraction positive ?_
    linarith [format.moved_lt_high other]
  · rcases Nat.eq_zero_or_pos other with rfl | otherPos
    · exact Nat.zero_le _
    · have middleLe := mul_le_mul_of_nonneg_right ge halvesPos.le
      rw [real_mul_halvesInOne] at middleLe
      have part : (number * format.halvesInOne - (format.span other).middle) /
          (16 * format.fractions) ≤ number * format.halvesInOne - (format.span other).middle :=
        div_le_self (by linarith) (by linarith)
      rw [sub_div] at part
      refine le_nearest_of_low_lt hasFraction positive finite.le ?_
      linarith [format.low_lt_moved otherPos]

theorem isFaithful_nearest_self (hasFraction : 0 < format.fractionBits)
    {numerator denominator : Nat} (positive : 0 < denominator) :
    format.IsFaithful ((numerator : ℚ) / denominator) (format.nearest numerator denominator) := by
  refine isFaithful_nearest hasFraction positive ?_
  rw [sub_self, abs_zero]
  positivity

theorem isFaithful_zero {number : ℚ} (small : number * format.halvesInOne ≤ 1) :
    format.IsFaithful number 0 := by
  have halvesPos := format.cast_halvesInOne_pos
  refine ⟨Nat.zero_le _, fun other _ _ => Nat.zero_le _, fun other _ ge => ?_⟩
  have middleLe := (mul_le_mul_of_nonneg_right ge halvesPos.le).trans small
  rw [real_mul_halvesInOne] at middleLe
  have unitsLe : 2 * format.units other ≤ 1 := by exact_mod_cast middleLe
  by_contra positive
  have := format.units_pos (not_le.mp positive)
  omega

theorem isFaithful_infinity {number : ℚ} (large : (2 : ℚ) ^ (format.exponents + 1) ≤ number) :
    format.IsFaithful number format.infinity := by
  refine ⟨le_rfl, fun other finite le => ?_, fun other finite _ => finite.le⟩
  have onePos : (1 : ℚ) ≤ format.unitsInOne := by exact_mod_cast format.unitsInOne_pos
  have otherLt : (format.units other : ℚ) < 2 ^ (format.exponents + format.fractionBits) := by
    exact_mod_cast (format.units_strictMono finite).trans_le format.units_infinity_le
  have fractionLe : (2 : ℚ) ^ format.fractionBits ≤ format.unitsInOne := by
    have : 2 ^ format.fractionBits ≤ format.unitsInOne :=
      Nat.pow_le_pow_right (by decide) (Nat.le_add_left _ _)
    exact_mod_cast this
  have realLt : format.real other < 2 ^ format.exponents := by
    rw [real, div_lt_iff₀ (by linarith)]
    calc (format.units other : ℚ) < 2 ^ (format.exponents + format.fractionBits) := otherLt
      _ = 2 ^ format.exponents * 2 ^ format.fractionBits := pow_add 2 _ _
      _ ≤ 2 ^ format.exponents * format.unitsInOne :=
          mul_le_mul_of_nonneg_left fractionLe (by positivity)
  have doubled : (2 : ℚ) ^ format.exponents ≤ 2 ^ (format.exponents + 1) :=
    pow_le_pow_right₀ one_le_two (Nat.le_succ _)
  linarith

/-- A decimal that is rounded once is read faithfully. -/
theorem isFaithful_ofDecimal (proper : format.IsProper) (coefficient : Nat) (exponent : Int) :
    format.IsFaithful (coefficient * 10 ^ exponent) (format.ofDecimal coefficient exponent) := by
  rcases ofDecimal_spec proper coefficient exponent with
    ⟨isZero, small⟩ | ⟨isInfinite, large⟩ | ⟨numerator, denominator, positive, isNearest, quotient⟩
  · exact isZero ▸ isFaithful_zero small
  · exact isInfinite ▸ isFaithful_infinity large
  · rw [isNearest, ← quotient]
    exact isFaithful_nearest_self proper.hasFraction positive

/-! ## Signed patterns -/

/-- A magnitude on the extended line; infinity is the end of it. -/
noncomputable def extended (format : Format) (magnitude : Nat) : EReal :=
  if magnitude < format.infinity then ((format.real magnitude : ℝ) : EReal) else ⊤

theorem extended_nonneg (format : Format) (magnitude : Nat) : 0 ≤ format.extended magnitude := by
  unfold extended
  split
  · exact_mod_cast format.real_nonneg magnitude
  · exact le_top

theorem extended_mono (format : Format) : Monotone format.extended := by
  intro first second le
  unfold extended
  by_cases finite : second < format.infinity
  · rw [if_pos (le.trans_lt finite), if_pos finite]
    exact_mod_cast format.real_strictMono.monotone le
  · rw [if_neg finite]
    exact le_top

/-- On the extended line, too, a faithful magnitude lies between any others that have
the number between them. -/
theorem IsFaithful.extended_le {number : ℚ} {magnitude : Nat}
    (faithful : format.IsFaithful number magnitude) {other : Nat}
    (le : ((number : ℝ) : EReal) ≤ format.extended other) :
    format.extended magnitude ≤ format.extended other := by
  by_cases finite : other < format.infinity
  · rw [extended, if_pos finite] at le
    exact format.extended_mono (faithful.le_of_le other finite (by exact_mod_cast le))
  · have isInfinite : format.extended other = ⊤ := if_neg finite
    exact isInfinite ▸ le_top

theorem IsFaithful.le_extended {number : ℚ} {magnitude : Nat}
    (faithful : format.IsFaithful number magnitude) {other : Nat}
    (ge : format.extended other ≤ ((number : ℝ) : EReal)) :
    format.extended other ≤ format.extended magnitude := by
  by_cases finite : other < format.infinity
  · rw [extended, if_pos finite] at ge
    exact format.extended_mono (faithful.ge_of_ge other finite (by exact_mod_cast ge))
  · rw [extended, if_neg finite] at ge
    exact absurd ge (not_le.mpr (EReal.coe_lt_top _))

end Format

/-- The number strictly between two others, whichever of them is the smaller. -/
def StrictlyBetween (first number second : EReal) : Prop :=
  first < number ∧ number < second ∨ second < number ∧ number < first

namespace Pattern

variable {format : Format}

/-- A pattern that is a number, on the extended line. -/
noncomputable def extended (pattern : Pattern format) : EReal :=
  if pattern.negative then -format.extended pattern.magnitude else format.extended pattern.magnitude

/-- No pattern lies strictly between the number and this one, and a number of the
format is kept. -/
structure IsFaithful (pattern : Pattern format) (number : ℚ) : Prop where
  isNumber : pattern.isNaN = false
  noneBetween : ∀ other : Pattern format, other.isNaN = false →
    ¬ StrictlyBetween ((number : ℝ) : EReal) other.extended pattern.extended
  exact : ∀ other : Pattern format, other.isFinite = true →
    other.extended = ((number : ℝ) : EReal) → pattern.extended = other.extended

/-- A pattern is faithful if all others are on the same side of it as of the number. -/
theorem isFaithful_of_sides {pattern : Pattern format} {number : ℚ}
    (isNumber : pattern.isNaN = false)
    (above : ∀ other : Pattern format, ((number : ℝ) : EReal) ≤ other.extended →
      pattern.extended ≤ other.extended)
    (below : ∀ other : Pattern format, other.extended ≤ ((number : ℝ) : EReal) →
      other.extended ≤ pattern.extended) : pattern.IsFaithful number where
  isNumber := isNumber
  noneBetween other _ between := by
    rcases between with ⟨afterNumber, beforePattern⟩ | ⟨afterPattern, beforeNumber⟩
    · exact absurd (above other afterNumber.le) (not_le.mpr beforePattern)
    · exact absurd (below other beforeNumber.le) (not_le.mpr afterPattern)
  exact other _ same := le_antisymm (above other same.ge) (below other same.le)

/-- The pattern with the other sign. -/
def opposite (pattern : Pattern format) : Pattern format :=
  { pattern with negative := !pattern.negative }

theorem extended_opposite (pattern : Pattern format) :
    pattern.opposite.extended = -pattern.extended := by
  unfold extended opposite
  cases pattern.negative <;> simp

/-- All patterns are on the same side of a faithful magnitude as of the number.  A pattern
with the other sign is not below the number only if both are zero. -/
theorem sides_of_isFaithful {number : ℚ} (nonneg : 0 ≤ number) {magnitude : Nat}
    (faithful : format.IsFaithful number magnitude) (other : Pattern format) :
    (((number : ℝ) : EReal) ≤ other.extended → format.extended magnitude ≤ other.extended) ∧
      (other.extended ≤ ((number : ℝ) : EReal) → other.extended ≤ format.extended magnitude) := by
  have numberNonneg : (0 : EReal) ≤ ((number : ℝ) : EReal) := by exact_mod_cast nonneg
  unfold extended
  cases other.negative with
  | false => exact ⟨faithful.extended_le, faithful.le_extended⟩
  | true =>
      have nonpos : -format.extended other.magnitude ≤ 0 := by
        rw [EReal.neg_le, neg_zero]
        exact format.extended_nonneg other.magnitude
      simp only [if_true]
      refine ⟨fun le => ?_, fun _ => nonpos.trans (format.extended_nonneg magnitude)⟩
      have isZero : -format.extended other.magnitude = 0 :=
        le_antisymm nonpos (numberNonneg.trans le)
      have zero : format.extended other.magnitude = 0 := EReal.neg_eq_zero_iff.mp isZero
      rw [isZero, ← zero] at le ⊢
      exact faithful.extended_le le

/-- A number with a sign. -/
def withSign (negative : Bool) (number : ℚ) : ℚ :=
  if negative then -number else number

/-- A sign makes a faithful pattern of a faithful magnitude. -/
theorem isFaithful_withSign {number : ℚ} (nonneg : 0 ≤ number) {pattern : Pattern format}
    (faithful : format.IsFaithful number pattern.magnitude) :
    pattern.IsFaithful (withSign pattern.negative number) := by
  have isNumber : pattern.isNaN = false := by
    simpa [isNaN] using faithful.le_infinity
  have sides := sides_of_isFaithful nonneg faithful
  cases negative : pattern.negative with
  | false =>
      have extendedEq : pattern.extended = format.extended pattern.magnitude := by
        simp [extended, negative]
      refine isFaithful_of_sides isNumber (fun other le => ?_) (fun other ge => ?_)
      · exact extendedEq ▸ (sides other).1 le
      · exact extendedEq ▸ (sides other).2 ge
  | true =>
      have extendedEq : pattern.extended = -format.extended pattern.magnitude := by
        simp [extended, negative]
      have numberEq : ((withSign true number : ℝ) : EReal) = -((number : ℝ) : EReal) := by
        simp [withSign]
      refine isFaithful_of_sides isNumber (fun other le => ?_) (fun other ge => ?_)
      · have below := (sides other.opposite).2
        rw [numberEq, EReal.neg_le] at le
        rw [extended_opposite] at below
        exact extendedEq ▸ EReal.neg_le.mp (below le)
      · have above := (sides other.opposite).1
        rw [numberEq, EReal.le_neg] at ge
        rw [extended_opposite] at above
        exact extendedEq ▸ EReal.le_neg.mp (above ge)

end Pattern

end PointRecords.Binary
