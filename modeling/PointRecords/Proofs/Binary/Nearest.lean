import PointRecords.Decimal.Shortest
import PointRecords.Proofs.Binary.Units

/-!
# The reals that round to a magnitude

`nearest` shifts, divides and adds fields together.  This file shows what comes
out of it: a magnitude exactly when the quotient lies in the span of that
magnitude, whose ends are half way to the neighbours and belong to it when it is
even.  The spans of different magnitudes are disjoint, so one containment
settles the result.
-/

namespace PointRecords

open Binary Binary.Format

namespace Decimal.Span

/-- A real, in half units, lies in the span. -/
def Covers (span : Span) (real : ℚ) : Prop :=
  if span.closed then span.low ≤ real ∧ real ≤ span.high
  else span.low < real ∧ real < span.high

theorem Covers.low_le {span : Span} {real : ℚ} (covers : span.Covers real) :
    span.low ≤ real := by
  unfold Covers at covers
  split at covers
  · exact covers.1
  · exact covers.1.le

theorem Covers.le_high {span : Span} {real : ℚ} (covers : span.Covers real) :
    real ≤ span.high := by
  unfold Covers at covers
  split at covers
  · exact covers.2
  · exact covers.2.le

/-- What lies between two reals of a span is in the span. -/
theorem Covers.convex {span : Span} {first real last : ℚ} (coversFirst : span.Covers first)
    (coversLast : span.Covers last) (above : first ≤ real) (below : real ≤ last) :
    span.Covers real := by
  unfold Covers at *
  split at coversFirst
  · rw [if_pos (by assumption)] at coversLast ⊢
    exact ⟨coversFirst.1.trans above, below.trans coversLast.2⟩
  · rw [if_neg (by assumption)] at coversLast ⊢
    exact ⟨coversFirst.1.trans_le above, below.trans_lt coversLast.2⟩

/-- A real strictly between the ends is in the span, whether or not it is
closed. -/
theorem covers_of_lt {span : Span} {real : ℚ} (above : span.low < real)
    (below : real < span.high) : span.Covers real := by
  unfold Covers
  split
  · exact ⟨above.le, below.le⟩
  · exact ⟨above, below⟩

/-- The test by cross multiplication decides containment. -/
theorem contains_iff (span : Span) {numerator denominator : Nat} (positive : 0 < denominator) :
    span.contains numerator denominator = true ↔
      span.Covers ((numerator : ℚ) / denominator) := by
  have positiveRat : (0 : ℚ) < denominator := by exact_mod_cast positive
  unfold contains Covers
  split
  · rw [Bool.and_eq_true, decide_eq_true_eq, decide_eq_true_eq, le_div_iff₀ positiveRat,
      div_le_iff₀ positiveRat]
    norm_cast
  · rw [Bool.and_eq_true, decide_eq_true_eq, decide_eq_true_eq, lt_div_iff₀ positiveRat,
      div_lt_iff₀ positiveRat]
    norm_cast

end Decimal.Span

namespace Binary

open Decimal

theorem div_eq_whole_add_rest (numerator : Nat) {denominator : Nat} (positive : 0 < denominator) :
    (numerator : ℚ) / denominator =
      (numerator / denominator : Nat) + ((numerator % denominator : Nat) : ℚ) / denominator := by
  have positiveRat : (denominator : ℚ) ≠ 0 := by exact_mod_cast positive.ne'
  have whole : (numerator : ℚ) =
      denominator * (numerator / denominator : Nat) + (numerator % denominator : Nat) := by
    exact_mod_cast (Nat.div_add_mod numerator denominator).symm
  calc (numerator : ℚ) / denominator
      = (denominator * (numerator / denominator : Nat) + (numerator % denominator : Nat)) /
          denominator := by rw [← whole]
    _ = _ := by rw [add_div, mul_div_cancel_left₀ _ positiveRat]

/-- Rounding moves a quotient by at most one half, and by one half only to an
even integer. -/
theorem roundHalfEven_spec (numerator : Nat) {denominator : Nat} (positive : 0 < denominator) :
    let quotient : ℚ := numerator / denominator
    let rounded := roundHalfEven numerator denominator
    quotient ≤ rounded + 1 / 2 ∧ (rounded : ℚ) - 1 / 2 ≤ quotient ∧
      (quotient = rounded + 1 / 2 ∨ quotient = rounded - 1 / 2 → rounded % 2 = 0) := by
  intro quotient rounded
  have positiveRat : (0 : ℚ) < denominator := by exact_mod_cast positive
  have split : quotient = _ := div_eq_whole_add_rest numerator positive
  have below : ((numerator % denominator : Nat) : ℚ) / denominator < 1 := by
    rw [div_lt_one positiveRat]
    exact_mod_cast Nat.mod_lt numerator positive
  have nonneg : 0 ≤ ((numerator % denominator : Nat) : ℚ) / denominator := by positivity
  have belowHalf : ((numerator % denominator : Nat) : ℚ) / denominator < 1 / 2 ↔
      2 * (numerator % denominator) < denominator := by
    rw [div_lt_div_iff₀ positiveRat (by norm_num), one_mul, mul_comm]
    norm_cast
  have aboveHalf : 1 / 2 < ((numerator % denominator : Nat) : ℚ) / denominator ↔
      denominator < 2 * (numerator % denominator) := by
    rw [div_lt_div_iff₀ (by norm_num) positiveRat, one_mul, mul_comm]
    norm_cast
  have definition : rounded = roundHalfEven numerator denominator := rfl
  unfold roundHalfEven at definition
  rw [split]
  generalize ((numerator % denominator : Nat) : ℚ) / denominator = rest at *
  by_cases small : 2 * (numerator % denominator) < denominator
  · have := belowHalf.mpr small
    rw [if_pos small] at definition
    rw [definition]
    refine ⟨by linarith, by linarith, ?_⟩
    rintro (tie | tie) <;> linarith
  · rw [if_neg small] at definition
    have atLeast : 1 / 2 ≤ rest := by
      by_contra less
      exact small (belowHalf.mp (by linarith))
    by_cases large : denominator < 2 * (numerator % denominator)
    · have := aboveHalf.mpr large
      rw [if_pos large] at definition
      rw [definition]
      push_cast
      refine ⟨by linarith, by linarith, ?_⟩
      rintro (tie | tie) <;> linarith
    · rw [if_neg large] at definition
      have half : rest = 1 / 2 := by
        refine le_antisymm ?_ atLeast
        by_contra more
        exact large (aboveHalf.mp (by linarith))
      split at definition
      · rw [definition, half]
        exact ⟨le_rfl, by linarith, fun _ => by assumption⟩
      · rw [definition, half]
        push_cast
        refine ⟨by linarith, by linarith, fun _ => by omega⟩

namespace Format

variable (format : Format)

/-- The magnitude that `nearest` finds before it is cut off at infinity. -/
def unboundedNearest (scaled denominator : Nat) : Nat :=
  let shift := (scaled / denominator).log2 - format.fractionBits
  shift * format.fractions + roundHalfEven scaled (denominator * 2 ^ shift)

theorem nearest_eq_min (numerator denominator : Nat) :
    format.nearest numerator denominator =
      min format.infinity
        (format.unboundedNearest (numerator * format.unitsInOne) denominator) :=
  rfl

/-- What the shift of `unboundedNearest` does to its argument: after it, the
significand has its leading one in place, unless the argument is too small to be
shifted at all. -/
theorem shifted_bounds (scaled : Nat) {denominator : Nat} (positive : 0 < denominator) :
    let shift := (scaled / denominator).log2 - format.fractionBits
    let real : ℚ := scaled / denominator
    real < 2 * format.fractions * 2 ^ shift ∧
      (shift = 0 ∨ format.fractions * 2 ^ shift ≤ real) := by
  intro shift real
  have positiveRat : (0 : ℚ) < denominator := by exact_mod_cast positive
  have fractions : format.fractions = 2 ^ format.fractionBits := rfl
  constructor
  · have below : scaled / denominator < 2 ^ (format.fractionBits + 1 + shift) :=
      Nat.lt_log2_self.trans_le (Nat.pow_le_pow_right (by decide) (by omega))
    have scaledBelow := (Nat.div_lt_iff_lt_mul positive).mp below
    have target : real < 2 ^ (format.fractionBits + 1 + shift) := by
      rw [show real = scaled / denominator from rfl, div_lt_iff₀ positiveRat]
      exact_mod_cast scaledBelow
    calc real < 2 ^ (format.fractionBits + 1 + shift) := target
      _ = 2 * format.fractions * 2 ^ shift := by
        rw [fractions]
        push_cast
        ring
  · by_cases unshifted : shift = 0
    · exact Or.inl unshifted
    · right
      have nonzero : scaled / denominator ≠ 0 := by
        intro zero
        apply unshifted
        simp [shift, zero]
      have above : 2 ^ (format.fractionBits + shift) ≤ scaled / denominator := by
        have exponent : format.fractionBits + shift = (scaled / denominator).log2 := by omega
        rw [exponent]
        exact Nat.log2_self_le nonzero
      have scaledAbove := (Nat.le_div_iff_mul_le positive).mp above
      have target : (2 : ℚ) ^ (format.fractionBits + shift) ≤ real := by
        rw [show real = scaled / denominator from rfl, le_div_iff₀ positiveRat]
        exact_mod_cast scaledAbove
      calc (format.fractions : ℚ) * 2 ^ shift = 2 ^ (format.fractionBits + shift) := by
            rw [fractions]
            push_cast
            ring
        _ ≤ real := target

/-- The significand that `unboundedNearest` finds has its leading one, unless
nothing was shifted, and at most carries into the next power of two. -/
theorem significand_bounds (scaled : Nat) {denominator : Nat} (positive : 0 < denominator) :
    let shift := (scaled / denominator).log2 - format.fractionBits
    let significand := roundHalfEven scaled (denominator * 2 ^ shift)
    significand ≤ 2 * format.fractions ∧ (shift = 0 ∨ format.fractions ≤ significand) := by
  intro shift significand
  have placePos : (0 : ℚ) < 2 ^ shift := by positivity
  obtain ⟨roundedUp, roundedDown, -⟩ :=
    roundHalfEven_spec scaled (Nat.mul_pos positive (Nat.two_pow_pos shift))
  obtain ⟨less, least⟩ := format.shifted_bounds scaled positive
  have place : (scaled : ℚ) / (denominator * 2 ^ shift : Nat) =
      scaled / denominator / 2 ^ shift := by
    push_cast
    rw [div_div]
  rw [place] at roundedUp roundedDown
  constructor
  · have below : (scaled : ℚ) / denominator / 2 ^ shift < 2 * format.fractions := by
      rw [div_lt_iff₀ placePos]
      exact less
    have cast : (significand : ℚ) < (2 * format.fractions + 1 : Nat) := by
      push_cast
      linarith
    have := Nat.cast_lt.mp cast
    omega
  · refine least.imp_right fun shifted => ?_
    have above : (format.fractions : ℚ) ≤ scaled / denominator / 2 ^ shift := by
      rw [le_div_iff₀ placePos]
      exact shifted
    have cast : (format.fractions : ℚ) < (significand + 1 : Nat) := by
      push_cast
      linarith
    have := Nat.cast_lt.mp cast
    omega

/-- Adding a significand to a shifted exponent field puts it at its place. -/
theorem units_at_place {shift significand : Nat} (high : significand ≤ 2 * format.fractions)
    (low : shift = 0 ∨ format.fractions ≤ significand) :
    format.units (shift * format.fractions + significand) = significand * 2 ^ shift := by
  rcases low with unshifted | leading
  · rw [unshifted, Nat.zero_mul, Nat.zero_add, Nat.pow_zero, Nat.mul_one]
    exact format.units_of_le high
  · exact format.units_shift leading high

theorem units_unboundedNearest (scaled : Nat) {denominator : Nat} (positive : 0 < denominator) :
    let shift := (scaled / denominator).log2 - format.fractionBits
    format.units (format.unboundedNearest scaled denominator) =
      roundHalfEven scaled (denominator * 2 ^ shift) * 2 ^ shift := by
  obtain ⟨high, low⟩ := format.significand_bounds scaled positive
  exact format.units_at_place high low

variable {format}

/-- The gap above the result of `unboundedNearest` is at least the place value of
its last digit. -/
theorem two_pow_le_gap {shift significand : Nat}
    (low : shift = 0 ∨ format.fractions ≤ significand) :
    2 ^ shift ≤ format.gap (shift * format.fractions + significand) := by
  rcases low with unshifted | leading
  · rw [unshifted]
    exact format.gap_pos _
  · refine Nat.pow_le_pow_right (by decide) ?_
    have : shift + 1 ≤ (shift * format.fractions + significand) / format.fractions := by
      rw [Nat.le_div_iff_mul_le format.fractions_pos, Nat.succ_mul]
      omega
    omega

/-- The gap below a significand that is not the least with its leading one is its
place value. -/
theorem units_pred {shift significand : Nat} (positive : 0 < significand)
    (high : significand ≤ 2 * format.fractions)
    (low : shift = 0 ∨ format.fractions < significand) :
    format.units (shift * format.fractions + significand - 1) + 2 ^ shift =
      significand * 2 ^ shift := by
  obtain ⟨less, rfl⟩ := Nat.exists_eq_succ_of_ne_zero positive.ne'
  rw [Nat.succ_eq_add_one, ← Nat.add_assoc, Nat.add_sub_cancel, Nat.succ_mul]
  congr 1
  rcases low with unshifted | leading
  · rw [unshifted, Nat.zero_mul, Nat.zero_add, Nat.pow_zero, Nat.mul_one]
    exact format.units_of_le (by omega)
  · exact format.units_shift (by omega) (by omega)

theorem fractions_even (hasFraction : 0 < format.fractionBits) : 2 ∣ format.fractions :=
  dvd_pow_self 2 hasFraction.ne'

/-- `roundHalfEven_spec` for a quotient that is rounded at a higher binary place,
with everything in half units. -/
theorem roundHalfEven_at_place (scaled shift : Nat) {denominator : Nat}
    (positive : 0 < denominator) :
    let real : ℚ := 2 * ((scaled : ℚ) / denominator)
    let significand := roundHalfEven scaled (denominator * 2 ^ shift)
    real ≤ (2 * significand + 1) * 2 ^ shift ∧ (2 * (significand : ℚ) - 1) * 2 ^ shift ≤ real ∧
      (real = (2 * significand + 1) * 2 ^ shift ∨ real = (2 * significand - 1) * 2 ^ shift →
        significand % 2 = 0) := by
  intro real significand
  have placePos : (0 : ℚ) < 2 ^ shift := by positivity
  obtain ⟨above, below, ties⟩ :=
    roundHalfEven_spec scaled (Nat.mul_pos positive (Nat.two_pow_pos shift))
  have place : real = 2 * ((scaled : ℚ) / (denominator * 2 ^ shift : Nat)) * 2 ^ shift := by
    simp only [real]
    push_cast
    field_simp
  rw [place]
  generalize (scaled : ℚ) / (denominator * 2 ^ shift : Nat) = quotient at *
  refine ⟨mul_le_mul_of_nonneg_right (by linarith) placePos.le,
    mul_le_mul_of_nonneg_right (by linarith) placePos.le, fun tie => ties ?_⟩
  refine tie.imp (fun upper => ?_) (fun lower => ?_)
  · have := mul_right_cancel₀ placePos.ne' upper
    linarith
  · have := mul_right_cancel₀ placePos.ne' lower
    linarith

/-- The upper end of the span of a significand at a binary place lies half a
place above it, or further. -/
theorem half_place_le_high {shift significand : Nat}
    (high : significand ≤ 2 * format.fractions)
    (low : shift = 0 ∨ format.fractions ≤ significand) :
    (2 * significand + 1) * 2 ^ shift ≤
      (format.span (shift * format.fractions + significand)).high := by
  have gap := two_pow_le_gap low
  simp only [span, units_succ, format.units_at_place high low]
  linarith

/-- The lower end lies half a place below, except under the least significand
with its leading one, where the gap is only half as wide. -/
theorem low_eq_half_place {shift significand : Nat} (positive : 0 < significand)
    (high : significand ≤ 2 * format.fractions)
    (low : shift = 0 ∨ format.fractions < significand) :
    (format.span (shift * format.fractions + significand)).low + 2 ^ shift =
      2 * significand * 2 ^ shift := by
  have pred := units_pred positive high low
  simp only [span, format.units_at_place high (low.imp_right le_of_lt)]
  linarith

/-- A real that is not more than half a place below a significand reaches the lower
end of its span.  Under the least significand with its leading one the end is
nearer, but there the real is not below the significand at all. -/
theorem low_reached {shift significand : Nat} {real : ℚ} (nonneg : 0 ≤ real)
    (high : significand ≤ 2 * format.fractions)
    (low : shift = 0 ∨ format.fractions ≤ significand)
    (leading : shift = 0 ∨ 2 * (format.fractions * 2 ^ shift) ≤ real)
    (near : (2 * (significand : ℚ) - 1) * 2 ^ shift ≤ real) :
    ((format.span (shift * format.fractions + significand)).low : ℚ) < real ∨
      ((format.span (shift * format.fractions + significand)).low : ℚ) ≤ real ∧
        (significand = 0 ∨ real = (2 * significand - 1) * 2 ^ shift) := by
  rcases Nat.eq_zero_or_pos significand with zero | positive
  · right
    have unshifted : shift = 0 := by
      have := format.fractions_pos
      omega
    simpa [zero, unshifted, span] using nonneg
  · by_cases least : shift ≠ 0 ∧ significand = format.fractions
    · left
      have smaller : format.units (shift * format.fractions + significand - 1) <
          format.units (shift * format.fractions + significand) :=
        format.units_strictMono (by omega)
      have whole := format.units_at_place high low
      have lowLt : (format.span (shift * format.fractions + significand)).low <
          2 * (significand * 2 ^ shift) := by
        simp only [span]
        omega
      have lowLtRat : ((format.span (shift * format.fractions + significand)).low : ℚ) <
          2 * (significand * 2 ^ shift) := by
        exact_mod_cast lowLt
      refine lowLtRat.trans_le ?_
      rw [least.2]
      exact leading.resolve_left least.1
    · have notLeast : shift = 0 ∨ format.fractions < significand := by
        refine or_iff_not_imp_left.mpr fun shifted => ?_
        exact lt_of_le_of_ne (low.resolve_left shifted) fun equal => least ⟨shifted, equal.symm⟩
      have lowEq : ((format.span (shift * format.fractions + significand)).low : ℚ) +
          2 ^ shift = 2 * significand * 2 ^ shift := by
        exact_mod_cast low_eq_half_place positive high notLeast
      rcases near.lt_or_eq with strict | tie
      · left
        linarith
      · right
        exact ⟨by linarith, Or.inr tie.symm⟩

/-- A quotient lies in the span of the magnitude it is rounded to.  An odd significand is
met by no tie, so the quotient stays off both ends of its span. -/
theorem covers_unboundedNearest (hasFraction : 0 < format.fractionBits) (scaled : Nat)
    {denominator : Nat} (positive : 0 < denominator) :
    (format.span (format.unboundedNearest scaled denominator)).Covers
      (2 * ((scaled : ℚ) / denominator)) := by
  obtain ⟨high, low⟩ := format.significand_bounds scaled positive
  have leading := (format.shifted_bounds scaled positive).2
  have nonneg : (0 : ℚ) ≤ 2 * (scaled / denominator) := by positivity
  simp only [unboundedNearest]
  generalize (scaled / denominator).log2 - format.fractionBits = shift at *
  obtain ⟨above, below, ties⟩ := roundHalfEven_at_place scaled shift positive
  generalize roundHalfEven scaled (denominator * 2 ^ shift) = significand at *
  generalize (scaled : ℚ) / denominator = real at *
  have parity : (shift * format.fractions + significand) % 2 = significand % 2 := by
    obtain ⟨half, fractions⟩ := fractions_even hasFraction
    rw [fractions, Nat.mul_left_comm, Nat.mul_add_mod]
  have highEnd : ((2 * significand + 1) * 2 ^ shift : ℚ) ≤
      (format.span (shift * format.fractions + significand)).high := by
    exact_mod_cast half_place_le_high high low
  have lowEnd := low_reached nonneg high low
    (leading.imp_right fun le => mul_le_mul_of_nonneg_left le two_pos.le) below
  by_cases even : significand % 2 = 0
  · have closed : (format.span (shift * format.fractions + significand)).closed = true := by
      simp [span, parity, even]
    unfold Span.Covers
    rw [if_pos closed]
    exact ⟨lowEnd.elim le_of_lt And.left, above.trans highEnd⟩
  · refine Span.covers_of_lt (lowEnd.resolve_right fun met => even ?_) ?_
    · rcases met.2 with zero | tie
      · rw [zero]
      · exact ties (Or.inr tie)
    · exact (lt_of_le_of_ne above fun tie => even (ties (Or.inl tie))).trans_le highEnd

/-- A real lies in the span of one magnitude only.  Of two magnitudes the smaller has its
upper end at or below the lower end of the larger; they touch only if they are
neighbours, and then one of them is odd. -/
theorem covers_unique {first second : Nat} {real : ℚ} (coversFirst : (format.span first).Covers real)
    (coversSecond : (format.span second).Covers real) : first = second := by
  have separate : ∀ {smaller larger : Nat}, smaller < larger →
      (format.span smaller).Covers real → (format.span larger).Covers real → False := by
    intro smaller larger less coversSmaller coversLarger
    have firstLe : format.units smaller ≤ format.units (larger - 1) :=
      format.units_strictMono.monotone (by omega)
    have secondLe : format.units (smaller + 1) ≤ format.units larger :=
      format.units_strictMono.monotone less
    have high : real ≤ (format.units smaller + format.units (smaller + 1) : Nat) :=
      coversSmaller.le_high
    have low : (format.units (larger - 1) + format.units larger : Nat) ≤ real := coversLarger.low_le
    have touching : (format.units (larger - 1) + format.units larger : Nat) ≤
        format.units smaller + format.units (smaller + 1) :=
      Nat.cast_le.mp (low.trans high)
    have neighbours : larger - 1 = smaller :=
      format.units_strictMono.injective (by omega)
    have tie : real = (format.units smaller + format.units (smaller + 1) : Nat) := by
      refine le_antisymm high (le_trans ?_ low)
      exact_mod_cast (by omega : format.units smaller + format.units (smaller + 1) ≤
        format.units (larger - 1) + format.units larger)
    have smallerEven : smaller % 2 = 0 := by
      by_contra odd
      rw [Span.Covers, if_neg (by simpa [span] using odd)] at coversSmaller
      exact coversSmaller.2.ne tie
    have largerEven : larger % 2 = 0 := by
      by_contra odd
      rw [Span.Covers, if_neg (by simpa [span] using odd)] at coversLarger
      refine coversLarger.1.ne' (tie.trans ?_)
      simp only [span, Nat.cast_inj]
      rw [neighbours, show larger = smaller + 1 by omega]
    omega
  rcases Nat.lt_trichotomy first second with less | equal | greater
  · exact (separate less coversFirst coversSecond).elim
  · exact equal
  · exact (separate greater coversSecond coversFirst).elim

/-- A quotient is rounded to a finite magnitude exactly when it lies in its
span. -/
theorem nearest_eq_iff (hasFraction : 0 < format.fractionBits) {numerator denominator : Nat}
    (positive : 0 < denominator) {magnitude : Nat} (finite : magnitude < format.infinity) :
    format.nearest numerator denominator = magnitude ↔
      (format.span magnitude).Covers ((numerator : ℚ) / denominator * format.halvesInOne) := by
  have covers := covers_unboundedNearest hasFraction (numerator * format.unitsInOne) positive
  have scale : 2 * (((numerator * format.unitsInOne : Nat) : ℚ) / denominator) =
      (numerator : ℚ) / denominator * format.halvesInOne := by
    rw [halvesInOne]
    push_cast
    ring
  rw [scale] at covers
  rw [nearest_eq_min]
  constructor
  · intro equal
    have : format.unboundedNearest (numerator * format.unitsInOne) denominator = magnitude := by
      omega
    rwa [this] at covers
  · intro coversMagnitude
    rw [covers_unique covers coversMagnitude]
    omega

end Format

end Binary

end PointRecords
