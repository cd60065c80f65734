import PointRecords.Proofs.Binary.Nearest

/-!
# Numbers and the magnitudes they round to

Spans are kept in half units; here the same is said of the numbers themselves.
Reading a coefficient with a power of ten finds the magnitude that the decimal
rounds to, also where the digits lie so far out that the power is not formed.
-/

namespace PointRecords

open Decimal Binary

namespace Binary.Format

variable {format : Format}

/-- The number that a finite magnitude stands for. -/
def real (format : Format) (magnitude : Nat) : ℚ :=
  format.units magnitude / format.unitsInOne

/-- A number rounds to a magnitude. -/
def RoundsTo (format : Format) (number : ℚ) (magnitude : Nat) : Prop :=
  (format.span magnitude).Covers (number * format.halvesInOne)

theorem unitsInOne_pos (format : Format) : 0 < format.unitsInOne :=
  Nat.pow_pos (by decide)

theorem halvesInOne_pos (format : Format) : 0 < format.halvesInOne :=
  Nat.mul_pos (by decide) format.unitsInOne_pos

theorem cast_unitsInOne_pos (format : Format) : (0 : ℚ) < format.unitsInOne :=
  Nat.cast_pos.mpr format.unitsInOne_pos

theorem cast_halvesInOne_pos (format : Format) : (0 : ℚ) < format.halvesInOne :=
  Nat.cast_pos.mpr format.halvesInOne_pos

theorem real_strictMono (format : Format) : StrictMono format.real := by
  intro first second less
  have onePos := format.cast_unitsInOne_pos
  refine div_lt_div_of_pos_right ?_ onePos
  exact_mod_cast format.units_strictMono less

@[simp]
theorem real_zero (format : Format) : format.real 0 = 0 := by
  simp [real]

theorem real_nonneg (format : Format) (magnitude : Nat) : 0 ≤ format.real magnitude :=
  div_nonneg (Nat.cast_nonneg _) (Nat.cast_nonneg _)

theorem real_mul_halvesInOne (format : Format) (magnitude : Nat) :
    format.real magnitude * format.halvesInOne = (format.span magnitude).middle := by
  have positive := format.cast_unitsInOne_pos.ne'
  simp only [real, halvesInOne, span]
  push_cast
  field_simp

theorem covers_middle (format : Format) (magnitude : Nat) :
    (format.span magnitude).Covers (format.span magnitude).middle := by
  cases magnitude with
  | zero => simp [Span.Covers, span]
  | succ magnitude =>
      have low := format.units_succ magnitude
      have high := format.units_succ (magnitude + 1)
      have lowGap := format.gap_pos magnitude
      have highGap := format.gap_pos (magnitude + 1)
      refine Span.covers_of_lt ?_ ?_
      · simp only [span, Nat.add_sub_cancel]
        exact_mod_cast (by omega : format.units magnitude + format.units (magnitude + 1) <
          2 * format.units (magnitude + 1))
      · simp only [span]
        exact_mod_cast (by omega : 2 * format.units (magnitude + 1) <
          format.units (magnitude + 1) + format.units (magnitude + 1 + 1))

theorem roundsTo_real (format : Format) (magnitude : Nat) :
    format.RoundsTo (format.real magnitude) magnitude := by
  rw [RoundsTo, real_mul_halvesInOne]
  exact format.covers_middle magnitude

theorem RoundsTo.convex {first number last : ℚ} {magnitude : Nat}
    (roundsFirst : format.RoundsTo first magnitude) (roundsLast : format.RoundsTo last magnitude)
    (above : first ≤ number) (below : number ≤ last) : format.RoundsTo number magnitude := by
  have halvesPos : (0 : ℚ) ≤ format.halvesInOne := by positivity
  exact Span.Covers.convex roundsFirst roundsLast (mul_le_mul_of_nonneg_right above halvesPos)
    (mul_le_mul_of_nonneg_right below halvesPos)

theorem RoundsTo.unique {number : ℚ} {first second : Nat}
    (roundsFirst : format.RoundsTo number first) (roundsSecond : format.RoundsTo number second) :
    first = second :=
  covers_unique roundsFirst roundsSecond

theorem nearest_eq_iff_roundsTo (hasFraction : 0 < format.fractionBits)
    {numerator denominator : Nat} (positive : 0 < denominator) {magnitude : Nat}
    (finite : magnitude < format.infinity) :
    format.nearest numerator denominator = magnitude ↔
      format.RoundsTo ((numerator : ℚ) / denominator) magnitude :=
  nearest_eq_iff hasFraction positive finite

/-- The widths of a format go together: there is a fraction, and the exponents
reach at least as far as the scale. -/
structure IsProper (format : Format) : Prop where
  hasFraction : 0 < format.fractionBits
  scale_le : format.scale ≤ format.exponents

theorem isProper_single : IsProper .single := ⟨by decide, by decide⟩

theorem isProper_double : IsProper .double := ⟨by decide, by decide⟩

theorem roundsTo_zero_zero (format : Format) : format.RoundsTo 0 0 := by
  simp [RoundsTo, Span.Covers, span]

theorem units_infinity_le (format : Format) :
    format.units format.infinity ≤ 2 ^ (format.exponents + format.fractionBits) := by
  have fractions : format.fractions = 2 ^ format.fractionBits := rfl
  have quotient : format.infinity / format.fractions = format.exponents - 1 :=
    Nat.mul_div_cancel _ format.fractions_pos
  have below := (format.units_lt_gap format.infinity).le
  rw [gap, quotient, fractions] at below
  rcases Nat.lt_or_ge format.exponents 2 with small | large
  · have : format.infinity = 0 ∨ format.infinity = format.fractions := by
      have positive := format.exponents_pos
      have : format.exponents = 1 := by omega
      simp [infinity, this]
    rcases this with zero | one
    · simp [zero]
    · rw [one, format.units_of_le (by omega), fractions]
      exact Nat.pow_le_pow_right (by decide) (by omega)
  · calc format.units format.infinity
        ≤ 2 ^ 1 * 2 ^ format.fractionBits * 2 ^ (format.exponents - 1 - 1) := by
          rwa [pow_one]
      _ = 2 ^ (1 + format.fractionBits + (format.exponents - 1 - 1)) := by
          rw [pow_add, pow_add]
      _ ≤ 2 ^ (format.exponents + format.fractionBits) :=
          Nat.pow_le_pow_right (by decide) (by omega)

/-- No number as large as this rounds to a finite magnitude. -/
theorem not_roundsTo_of_le {number : ℚ} {magnitude : Nat} (finite : magnitude < format.infinity)
    (large : (2 : ℚ) ^ (format.exponents + 1) ≤ number) : ¬ format.RoundsTo number magnitude := by
  intro rounds
  have high : number * format.halvesInOne ≤ (format.units magnitude + format.units (magnitude + 1) : Nat) :=
    rounds.le_high
  have lower : format.units magnitude < format.units format.infinity :=
    format.units_strictMono finite
  have upper : format.units (magnitude + 1) ≤ format.units format.infinity :=
    format.units_strictMono.monotone finite
  have bound := format.units_infinity_le
  have fractionLe : format.fractionBits ≤ format.scale := Nat.le_add_left _ _
  have ends : format.units magnitude + format.units (magnitude + 1) <
      2 ^ (format.exponents + 1) * format.halvesInOne := by
    calc format.units magnitude + format.units (magnitude + 1)
        < 2 * 2 ^ (format.exponents + format.fractionBits) := by omega
      _ = 2 ^ (format.exponents + format.fractionBits + 1) := by rw [pow_succ']
      _ ≤ 2 ^ (format.exponents + 1 + (format.scale + 1)) :=
          Nat.pow_le_pow_right (by decide) (by omega)
      _ = 2 ^ (format.exponents + 1) * format.halvesInOne := by
          rw [halvesInOne, unitsInOne, Nat.pow_eq, pow_add _ (format.exponents + 1), pow_succ' 2 format.scale]
  have endsRat : ((format.units magnitude + format.units (magnitude + 1) : Nat) : ℚ) <
      2 ^ (format.exponents + 1) * format.halvesInOne := by
    exact_mod_cast ends
  have product := mul_le_mul_of_nonneg_right large
    (by positivity : (0 : ℚ) ≤ format.halvesInOne)
  linarith

theorem roundsTo_zero_of_le {number : ℚ} (nonneg : 0 ≤ number)
    (small : number * format.halvesInOne ≤ 1) : format.RoundsTo number 0 := by
  have one : format.units 1 = 1 := by
    have := format.units_succ 0
    simpa [gap, Nat.zero_div] using this
  unfold RoundsTo Span.Covers
  rw [if_pos (by rfl)]
  simp only [span, units_zero, one]
  exact ⟨by simpa using mul_nonneg nonneg (Nat.cast_nonneg _), by simpa using small⟩

/-- The cut of `ofDecimal` above: powers of ten beyond it outgrow the format. -/
theorem two_pow_le_of_far_above {coefficient places : Nat} (nonzero : coefficient ≠ 0)
    (far : format.exponents < places) :
    (2 : ℚ) ^ (format.exponents + 1) ≤ coefficient * 10 ^ places := by
  have atLeastOne : (1 : ℚ) ≤ coefficient := by
    exact_mod_cast Nat.one_le_iff_ne_zero.mpr nonzero
  calc (2 : ℚ) ^ (format.exponents + 1) ≤ 2 ^ places :=
        pow_le_pow_right₀ (by norm_num) (by omega)
    _ ≤ 10 ^ places := pow_le_pow_left₀ (by norm_num) (by norm_num) _
    _ ≤ coefficient * 10 ^ places := le_mul_of_one_le_left (by positivity) atLeastOne

/-- The cut of `ofDecimal` below: what is left there is at most one half unit. -/
theorem halves_le_of_far_below (proper : format.IsProper) {coefficient places : Nat}
    (far : format.exponents + coefficient.log2 + 2 ≤ places) :
    coefficient * format.halvesInOne ≤ 10 ^ places := by
  have digits : coefficient < 2 ^ (coefficient.log2 + 1) := Nat.lt_log2_self
  have halves : format.halvesInOne = 2 ^ (format.scale + 1) := by
    rw [halvesInOne, unitsInOne, Nat.pow_eq, pow_succ']
  have scale := proper.scale_le
  calc coefficient * format.halvesInOne
      ≤ 2 ^ (coefficient.log2 + 1) * 2 ^ (format.scale + 1) :=
        Nat.mul_le_mul digits.le halves.le
    _ = 2 ^ (coefficient.log2 + 1 + (format.scale + 1)) := (pow_add 2 _ _).symm
    _ ≤ 2 ^ places := Nat.pow_le_pow_right (by decide) (by omega)
    _ ≤ 10 ^ places := Nat.pow_le_pow_left (by decide) _

/-- What `ofDecimal` gives: zero for what is too small, infinity for what is too large,
and the decimal rounded once for everything else. -/
theorem ofDecimal_spec (proper : format.IsProper) (coefficient : Nat) (exponent : Int) :
    (format.ofDecimal coefficient exponent = 0 ∧
        (coefficient : ℚ) * 10 ^ exponent * format.halvesInOne ≤ 1) ∨
      (format.ofDecimal coefficient exponent = format.infinity ∧
        (2 : ℚ) ^ (format.exponents + 1) ≤ coefficient * 10 ^ exponent) ∨
      ∃ numerator denominator, 0 < denominator ∧
        format.ofDecimal coefficient exponent = format.nearest numerator denominator ∧
        (numerator : ℚ) / denominator = coefficient * 10 ^ exponent := by
  unfold ofDecimal
  split
  · rename_i zero
    refine Or.inl ⟨rfl, ?_⟩
    simp [zero]
  · rename_i nonzero
    simp only
    split
    · rename_i far
      obtain ⟨places, rfl⟩ := Int.eq_ofNat_of_zero_le (by omega : 0 ≤ exponent)
      refine Or.inr (Or.inl ⟨rfl, ?_⟩)
      rw [zpow_natCast]
      exact two_pow_le_of_far_above nonzero (by omega)
    · split
      · rename_i _ far
        obtain ⟨places, placesEq⟩ := Int.eq_ofNat_of_zero_le (by omega : 0 ≤ -exponent)
        obtain rfl : exponent = -(places : Int) := by omega
        have product : coefficient * format.halvesInOne ≤ 10 ^ places :=
          halves_le_of_far_below proper (by omega)
        refine Or.inl ⟨rfl, ?_⟩
        rw [zpow_neg, zpow_natCast, mul_right_comm, ← div_eq_mul_inv, div_le_one (by positivity)]
        exact_mod_cast product
      · split
        · rename_i negative
          obtain ⟨places, placesEq⟩ := Int.eq_ofNat_of_zero_le (by omega : 0 ≤ -exponent)
          obtain rfl : exponent = -(places : Int) := by omega
          refine Or.inr (Or.inr ⟨_, _, Nat.pow_pos (by decide), rfl, ?_⟩)
          simp [zpow_neg, div_eq_mul_inv]
        · rename_i nonneg
          obtain ⟨places, rfl⟩ := Int.eq_ofNat_of_zero_le (not_lt.mp nonneg)
          refine Or.inr (Or.inr ⟨_, _, one_pos, rfl, ?_⟩)
          simp

/-- A decimal is read as the finite magnitude that it rounds to. -/
theorem ofDecimal_eq_iff (proper : format.IsProper) {magnitude : Nat}
    (finite : magnitude < format.infinity) (coefficient : Nat) (exponent : Int) :
    format.ofDecimal coefficient exponent = magnitude ↔
      format.RoundsTo (coefficient * 10 ^ exponent) magnitude := by
  rcases ofDecimal_spec proper coefficient exponent with
    ⟨isZero, small⟩ | ⟨isInfinite, large⟩ | ⟨numerator, denominator, positive, isNearest, quotient⟩
  · have rounds := roundsTo_zero_of_le (by positivity) small
    rw [isZero]
    exact ⟨fun equal => equal ▸ rounds, fun roundsTo => rounds.unique roundsTo⟩
  · rw [isInfinite]
    exact ⟨fun equal => by omega, fun rounds => (not_roundsTo_of_le finite large rounds).elim⟩
  · rw [isNearest, ← quotient]
    exact nearest_eq_iff_roundsTo proper.hasFraction positive finite

end Binary.Format

namespace Binary.Pattern

variable {format : Format} {pattern : Pattern format}

theorem isFinite_iff : pattern.isFinite = true ↔ pattern.magnitude < format.infinity := by
  simp [isFinite]

theorem isNaN_eq_false_iff : pattern.isNaN = false ↔ pattern.magnitude ≤ format.infinity := by
  simp [isNaN]

end Binary.Pattern

end PointRecords
