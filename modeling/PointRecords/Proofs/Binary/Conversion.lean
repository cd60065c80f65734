import PointRecords.Proofs.Binary.NearestEven

/-!
# Patterns in another format

A format is wider than another one if it holds every real of the other and the points
half way between two of them.  So nothing is lost when a pattern is taken to a wider
format, and taking it back gives the pattern itself.  In the other direction a pattern
is rounded once.
-/

namespace PointRecords.Binary

open Decimal

namespace Format

variable {narrow wide source target : Format}

/-- The wide format has at least one more binary digit than the narrow one, at both
ends. -/
structure IsWider (narrow wide : Format) : Prop where
  fractions_le : 2 * narrow.fractions ≤ wide.fractions
  scale_lt : narrow.scale < wide.scale
  infinity_le : narrow.units narrow.infinity * 2 ^ (wide.scale - narrow.scale) ≤
    wide.units wide.infinity

theorem isWider_single_double : IsWider .single .double :=
  ⟨by decide, by decide, by decide +kernel⟩

/-- Few binary digits in halves of the narrow format are few in the wide one. -/
theorem IsWider.isShort (wider : IsWider narrow wide) {number : ℚ} (coefficient place : Nat)
    (few : coefficient < 4 * narrow.fractions)
    (halves : number * narrow.halvesInOne = (coefficient * 2 ^ place : Nat))
    (small : coefficient * 2 ^ place < 2 * narrow.units narrow.infinity) :
    wide.IsShort number := by
  have scale : wide.scale = narrow.scale + 1 + (wide.scale - narrow.scale - 1) := by
    have := wider.scale_lt
    omega
  have places : 2 ^ (wide.scale - narrow.scale) = 2 * 2 ^ (wide.scale - narrow.scale - 1) := by
    rw [← pow_succ']
    congr 1
    have := wider.scale_lt
    omega
  have infinityLe := wider.infinity_le
  have fractionsLe := wider.fractions_le
  rw [places] at infinityLe
  generalize wide.scale - narrow.scale - 1 = more at *
  have one : (wide.unitsInOne : ℚ) = narrow.halvesInOne * 2 ^ more := by
    rw [halvesInOne, unitsInOne, unitsInOne, Nat.pow_eq, Nat.pow_eq, scale]
    push_cast
    ring
  refine ⟨coefficient, place + more, by omega, ?_, ?_⟩
  · rw [one, ← mul_assoc, halves, pow_add]
    push_cast
    ring
  · calc coefficient * 2 ^ (place + more) = coefficient * 2 ^ place * 2 ^ more := by ring
      _ < 2 * narrow.units narrow.infinity * 2 ^ more :=
          (Nat.mul_lt_mul_right (by positivity)).mpr small
      _ = narrow.units narrow.infinity * (2 * 2 ^ more) := by ring
      _ ≤ wide.units wide.infinity := infinityLe

theorem exists_units_eq (format : Format) (magnitude : Nat) :
    ∃ coefficient < 2 * format.fractions,
      format.units magnitude = coefficient * 2 ^ (magnitude / format.fractions - 1) := by
  have bound := Nat.mod_lt magnitude format.fractions_pos
  rw [units_eq]
  split
  · rename_i small
    refine ⟨magnitude % format.fractions, by omega, ?_⟩
    simp [small]
  · exact ⟨format.fractions + magnitude % format.fractions, by omega, rfl⟩

theorem IsWider.isShort_real (wider : IsWider narrow wide) {magnitude : Nat}
    (finite : magnitude < narrow.infinity) : wide.IsShort (narrow.real magnitude) := by
  obtain ⟨coefficient, few, unitsEq⟩ := narrow.exists_units_eq magnitude
  have middle : (narrow.span magnitude).middle =
      2 * coefficient * 2 ^ (magnitude / narrow.fractions - 1) := by
    simp only [span, unitsEq, Nat.mul_assoc]
  refine wider.isShort (2 * coefficient) (magnitude / narrow.fractions - 1) (by omega) ?_ ?_
  · rw [real_mul_halvesInOne, middle]
  · rw [← middle]
    exact (Nat.mul_lt_mul_left two_pos).mpr (narrow.units_strictMono finite)

/-- The wide format holds the point half way between two neighbours. -/
theorem IsWider.isShort_ending (wider : IsWider narrow wide) {below : Nat}
    (finite : below < narrow.infinity) :
    wide.IsShort (narrow.ending below / narrow.halvesInOne) := by
  have halvesPos := narrow.cast_halvesInOne_pos.ne'
  obtain ⟨coefficient, endingEq, -, few, -⟩ := narrow.ending_eq below
  refine wider.isShort coefficient (below / narrow.fractions - 1) few ?_ ?_
  · rw [div_mul_cancel₀ _ halvesPos, endingEq]
  · rw [← endingEq]
    have lower := narrow.units_strictMono finite
    have upper : narrow.units (below + 1) ≤ narrow.units narrow.infinity :=
      narrow.units_strictMono.monotone finite
    unfold ending
    omega

theorem convert_of_finite {magnitude : Nat} (finite : magnitude < source.infinity) :
    source.convert target magnitude =
      target.nearest (source.units magnitude) source.unitsInOne := by
  rw [convert, if_pos finite]

theorem convert_infinity (source target : Format) :
    source.convert target source.infinity = target.infinity := by
  simp [convert]

/-- Taking numbers to another format keeps their order. -/
theorem convert_le_convert (hasFraction : 0 < target.fractionBits) {magnitude larger : Nat}
    (le : magnitude ≤ larger) (finite : larger < source.infinity) :
    source.convert target magnitude ≤ source.convert target larger := by
  rw [convert_of_finite (le.trans_lt finite), convert_of_finite finite]
  exact nearest_le_nearest hasFraction source.unitsInOne_pos (source.units_strictMono.monotone le)

/-- A wider format keeps every real. -/
theorem real_convert (wider : IsWider narrow wide) {magnitude : Nat}
    (finite : magnitude < narrow.infinity) :
    narrow.convert wide magnitude < wide.infinity ∧
      wide.real (narrow.convert wide magnitude) = narrow.real magnitude := by
  rw [convert_of_finite finite]
  exact real_nearest_of_isShort narrow.unitsInOne_pos (wider.isShort_real finite)

/-- What has been taken to a wider format is taken back unchanged. -/
theorem convert_convert (wider : IsWider narrow wide) (hasFraction : 0 < narrow.fractionBits)
    {magnitude : Nat} (isNumber : magnitude ≤ narrow.infinity) :
    wide.convert narrow (narrow.convert wide magnitude) = magnitude := by
  rcases isNumber.lt_or_eq with finite | rfl
  · obtain ⟨wideFinite, realEq⟩ := real_convert wider finite
    rw [convert_of_finite wideFinite]
    apply (nearest_eq_iff_roundsTo hasFraction wide.unitsInOne_pos finite).mpr
    change narrow.RoundsTo (wide.real _) magnitude
    rw [realEq]
    exact narrow.roundsTo_real magnitude
  · rw [convert_infinity, convert_infinity]

end Format

namespace Pattern

variable {narrow wide source target : Format}

@[simp]
theorem negative_convert (target : Format) (pattern : Pattern source) :
    (pattern.convert target).negative = pattern.negative :=
  rfl

@[simp]
theorem magnitude_convert (target : Format) (pattern : Pattern source) :
    (pattern.convert target).magnitude = source.convert target pattern.magnitude :=
  rfl

/-- One pattern is another one rounded once. -/
structure IsRounded (rounded : Pattern target) (pattern : Pattern source) : Prop where
  finite : pattern.isFinite = true →
    rounded.IsRounding pattern.negative (source.real pattern.magnitude)
  infinite : pattern.isFinite = false → rounded = infinite pattern.negative

/-- One pattern stands for the same number as another, signs of zeros included. -/
structure IsSame (first : Pattern target) (second : Pattern source) : Prop where
  sign : first.negative = second.negative
  isFinite : first.isFinite = second.isFinite
  real : second.isFinite = true → first.real = second.real
  infinite : second.isFinite = false → first = infinite second.negative

theorem convert_of_finite (target : Format) {pattern : Pattern source}
    (finite : pattern.isFinite = true) :
    pattern.convert target =
      round pattern.negative (source.units pattern.magnitude) source.unitsInOne :=
  ext_iff.mpr ⟨rfl, Format.convert_of_finite (isFinite_iff.mp finite)⟩

theorem convert_of_not_finite (target : Format) {pattern : Pattern source}
    (isNumber : pattern.isNaN = false) (notFinite : pattern.isFinite = false) :
    pattern.convert target = infinite pattern.negative := by
  have notBelow : ¬ pattern.magnitude < source.infinity := by
    rw [← isFinite_iff, notFinite]
    exact Bool.false_ne_true
  have isInfinite : pattern.magnitude = source.infinity := by
    have := isNaN_eq_false_iff.mp isNumber
    omega
  refine ext_iff.mpr ⟨rfl, ?_⟩
  rw [magnitude_convert, isInfinite, Format.convert_infinity]
  rfl

/-- A number is rounded once when it is taken to another format. -/
theorem isRounded_convert (hasFraction : 0 < target.fractionBits)
    (infinityPos : 0 < target.infinity) {pattern : Pattern source}
    (isNumber : pattern.isNaN = false) : (pattern.convert target).IsRounded pattern where
  finite finite := by
    rw [convert_of_finite target finite]
    exact isRounding_round hasFraction infinityPos _ _ source.unitsInOne_pos
  infinite := convert_of_not_finite target isNumber

/-- A number is the same in a wider format. -/
theorem isSame_convert (wider : Format.IsWider narrow wide) {pattern : Pattern narrow}
    (isNumber : pattern.isNaN = false) : (pattern.convert wide).IsSame pattern where
  sign := rfl
  isFinite := by
    cases finite : pattern.isFinite with
    | true => exact isFinite_iff.mpr (Format.real_convert wider (isFinite_iff.mp finite)).1
    | false =>
        rw [convert_of_not_finite wide isNumber finite]
        simp [isFinite, infinite]
  real finite := congrArg (withSign pattern.negative)
    (Format.real_convert wider (isFinite_iff.mp finite)).2
  infinite := convert_of_not_finite wide isNumber

/-- A number comes back from a wider format as it was. -/
theorem convert_convert (wider : Format.IsWider narrow wide)
    (hasFraction : 0 < narrow.fractionBits) {pattern : Pattern narrow}
    (isNumber : pattern.isNaN = false) : (pattern.convert wide).convert narrow = pattern :=
  ext_iff.mpr ⟨rfl, Format.convert_convert wider hasFraction (isNaN_eq_false_iff.mp isNumber)⟩

theorem isNaN_convert {pattern : Pattern source} (isNumber : pattern.isNaN = false) :
    (pattern.convert target).isNaN = false := by
  rw [isNaN_eq_false_iff] at isNumber ⊢
  rw [magnitude_convert]
  rcases isNumber.lt_or_eq with finite | isInfinite
  · rw [Format.convert_of_finite finite]
    exact min_le_left _ _
  · rw [isInfinite, Format.convert_infinity]

end Pattern

end PointRecords.Binary
