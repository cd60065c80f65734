import PointRecords.Proofs.Binary.Faithful

/-!
# Nearest patterns

A pattern is nearest to a number if no finite pattern is nearer and if it is even
wherever another one is as near.  Spans are made so that rounding finds this
pattern, up to the number half way between the largest finite magnitude and the
place of infinity.  From there on rounding gives infinity.
-/

namespace PointRecords.Binary

open Decimal

namespace Format

variable {format : Format}

/-! ## Magnitudes -/

/-- No finite magnitude is nearer to the number, and where another one is as near this
is the even one. -/
structure IsNearest (format : Format) (number : ℚ) (magnitude : Nat) : Prop where
  finite : magnitude < format.infinity
  least : ∀ other < format.infinity,
    |format.real magnitude - number| ≤ |format.real other - number|
  even : ∀ other < format.infinity, other ≠ magnitude →
    |format.real magnitude - number| = |format.real other - number| → magnitude % 2 = 0

/-- The nearer of two numbers is told by the side of their middle. -/
theorem abs_sub_le_abs_sub {near far number : ℚ}
    (side : 0 ≤ (far - near) * (far + near - 2 * number)) :
    |near - number| ≤ |far - number| := by
  apply sq_le_sq.mp
  linarith

theorem add_eq_of_abs_sub_eq {near far number : ℚ} (different : far ≠ near)
    (equal : |near - number| = |far - number|) : far + near = 2 * number := by
  have squares := (sq_eq_sq_iff_abs_eq_abs _ _).mpr equal
  have product : (far - near) * (far + near - 2 * number) = 0 := by linarith
  have middle := (mul_eq_zero.mp product).resolve_left (sub_ne_zero.mpr different)
  linarith

/-- An end of a span belongs to the even magnitude. -/
theorem RoundsTo.even_of_end {number : ℚ} {magnitude : Nat}
    (rounds : format.RoundsTo number magnitude)
    (atEnd : number * format.halvesInOne = (format.span magnitude).low ∨
      number * format.halvesInOne = (format.span magnitude).high) : magnitude % 2 = 0 := by
  by_contra odd
  rw [RoundsTo, Span.Covers, if_neg (by simpa [span] using odd)] at rounds
  rcases atEnd with low | high
  · exact rounds.1.ne' low
  · exact rounds.2.ne high

theorem real_add_mul_halvesInOne (format : Format) (first second : Nat) :
    (format.real first + format.real second) * format.halvesInOne =
      2 * (format.units first + format.units second : Nat) := by
  rw [add_mul, real_mul_halvesInOne, real_mul_halvesInOne]
  simp only [span]
  push_cast
  ring

/-- A number lies above the middle of its magnitude and a smaller one. -/
theorem RoundsTo.add_le {number : ℚ} {magnitude other : Nat}
    (rounds : format.RoundsTo number magnitude) (less : other < magnitude) :
    format.real other + format.real magnitude ≤ 2 * number ∧
      (format.real other + format.real magnitude = 2 * number → magnitude % 2 = 0) := by
  have halvesPos := format.cast_halvesInOne_pos
  have unitsLe : format.units other + format.units magnitude ≤ (format.span magnitude).low :=
    Nat.add_le_add_right (format.units_strictMono.monotone (by omega)) _
  have unitsRat : ((format.units other + format.units magnitude : Nat) : ℚ) ≤
      (format.span magnitude).low := by exact_mod_cast unitsLe
  have low := rounds.low_le
  have middle := format.real_add_mul_halvesInOne other magnitude
  constructor
  · refine le_of_mul_le_mul_right ?_ halvesPos
    linarith
  · intro tie
    refine rounds.even_of_end (Or.inl (le_antisymm ?_ low))
    rw [tie] at middle
    linarith

/-- It lies below the middle of its magnitude and a larger one. -/
theorem RoundsTo.le_add {number : ℚ} {magnitude other : Nat}
    (rounds : format.RoundsTo number magnitude) (less : magnitude < other) :
    2 * number ≤ format.real magnitude + format.real other ∧
      (format.real magnitude + format.real other = 2 * number → magnitude % 2 = 0) := by
  have halvesPos := format.cast_halvesInOne_pos
  have unitsLe : (format.span magnitude).high ≤ format.units magnitude + format.units other :=
    Nat.add_le_add_left (format.units_strictMono.monotone less) _
  have unitsRat : ((format.span magnitude).high : ℚ) ≤
      (format.units magnitude + format.units other : Nat) := by exact_mod_cast unitsLe
  have high := rounds.le_high
  have middle := format.real_add_mul_halvesInOne magnitude other
  constructor
  · refine le_of_mul_le_mul_right ?_ halvesPos
    linarith
  · intro tie
    refine rounds.even_of_end (Or.inr (le_antisymm high ?_))
    rw [tie] at middle
    linarith

/-- The magnitude whose span a number lies in is the nearest one. -/
theorem RoundsTo.isNearest {number : ℚ} {magnitude : Nat} (finite : magnitude < format.infinity)
    (rounds : format.RoundsTo number magnitude) : format.IsNearest number magnitude where
  finite := finite
  least other _ := by
    apply abs_sub_le_abs_sub
    rcases lt_trichotomy other magnitude with less | rfl | greater
    · have order := format.real_strictMono less
      exact mul_nonneg_of_nonpos_of_nonpos (by linarith) (by linarith [(rounds.add_le less).1])
    · simp
    · have order := format.real_strictMono greater
      exact mul_nonneg (by linarith) (by linarith [(rounds.le_add greater).1])
  even other _ different tie := by
    have middle := add_eq_of_abs_sub_eq (format.real_strictMono.injective.ne different) tie
    rcases different.lt_or_gt with less | greater
    · exact (rounds.add_le less).2 middle
    · exact (rounds.le_add greater).2 (by linarith)

/-- Only one magnitude is nearest to a number: two even ones have an odd one between them,
and that one is nearer. -/
theorem IsNearest.unique {number : ℚ} {first second : Nat}
    (nearestFirst : format.IsNearest number first)
    (nearestSecond : format.IsNearest number second) : first = second := by
  by_contra different
  have tie := le_antisymm (nearestFirst.least second nearestSecond.finite)
    (nearestSecond.least first nearestFirst.finite)
  have firstEven := nearestFirst.even second nearestSecond.finite (Ne.symm different) tie
  have secondEven := nearestSecond.even first nearestFirst.finite different tie.symm
  have middle := add_eq_of_abs_sub_eq
    (format.real_strictMono.injective.ne (Ne.symm different)) tie
  have between : ∀ {smaller larger : Nat}, smaller < larger → smaller % 2 = 0 → larger % 2 = 0 →
      format.IsNearest number smaller → format.IsNearest number larger →
      format.real larger + format.real smaller = 2 * number → False := by
    intro smaller larger less smallerEven largerEven nearestSmaller nearestLarger middle
    have above := format.real_strictMono (show smaller < smaller + 1 by omega)
    have below := format.real_strictMono (show smaller + 1 < larger by omega)
    have nearer := nearestSmaller.least (smaller + 1) (by have := nearestLarger.finite; omega)
    rw [abs_sub_comm, abs_of_nonneg (by linarith)] at nearer
    rcases abs_cases (format.real (smaller + 1) - number) with ⟨equal, -⟩ | ⟨equal, -⟩
    · linarith
    · linarith
  rcases lt_or_gt_of_ne different with less | greater
  · exact between less firstEven secondEven nearestFirst nearestSecond middle
  · exact between greater secondEven firstEven nearestSecond nearestFirst (by linarith)

/-! ## Rounding -/

/-- The number half way between the largest finite magnitude and the place of
infinity. -/
def overflow (format : Format) : ℚ :=
  (format.real (format.infinity - 1) + format.real format.infinity) / 2

theorem overflow_mul_halvesInOne (infinityPos : 0 < format.infinity) :
    format.overflow * format.halvesInOne = format.ending (format.infinity - 1) := by
  rw [overflow, div_mul_eq_mul_div, real_add_mul_halvesInOne, ending,
    Nat.sub_add_cancel infinityPos, mul_div_cancel_left₀ _ two_ne_zero]

theorem overflow_single : overflow .single = (2 ^ 25 - 1) * 2 ^ 103 := by
  have largest : units .single (infinity .single - 1) = (2 ^ 24 - 1) * 2 ^ 253 := by
    decide +kernel
  have infinity : units .single (infinity .single) = 2 ^ 128 * 2 ^ 149 := by decide +kernel
  have one : unitsInOne .single = 2 ^ 149 := by decide +kernel
  rw [overflow, real, real, largest, infinity, one]
  norm_num

theorem infinity_even (hasFraction : 0 < format.fractionBits) : format.infinity % 2 = 0 := by
  obtain ⟨half, fractions⟩ := fractions_even hasFraction
  rw [infinity, fractions, Nat.mul_left_comm, Nat.mul_mod_right]

theorem ending_strictMono (format : Format) : StrictMono format.ending := fun _ _ less =>
  Nat.add_lt_add (format.units_strictMono less) (format.units_strictMono (Nat.succ_lt_succ less))

/-- What rounds to a finite magnitude is below the overflow: the largest one is odd, so
the end of its span is not its own. -/
theorem RoundsTo.lt_overflow (hasFraction : 0 < format.fractionBits) {number : ℚ}
    {magnitude : Nat} (finite : magnitude < format.infinity)
    (rounds : format.RoundsTo number magnitude) : number < format.overflow := by
  by_contra notBelow
  have aboveEnd := mul_le_mul_of_nonneg_right (not_lt.mp notBelow)
    (Nat.cast_nonneg format.halvesInOne : (0 : ℚ) ≤ _)
  rw [overflow_mul_halvesInOne (by omega)] at aboveEnd
  have endings : format.ending magnitude ≤ format.ending (format.infinity - 1) :=
    format.ending_strictMono.monotone (by omega)
  have endingsRat : (format.ending magnitude : ℚ) ≤ format.ending (format.infinity - 1) := by
    exact_mod_cast endings
  have leHigh : _ ≤ (format.ending magnitude : ℚ) := rounds.le_high
  have isEven := rounds.even_of_end (Or.inr (le_antisymm leHigh (endingsRat.trans aboveEnd)))
  have same : format.ending magnitude = format.ending (format.infinity - 1) := by
    exact_mod_cast le_antisymm endingsRat (aboveEnd.trans leHigh)
  have isLargest := format.ending_strictMono.injective same
  have infinityEven := infinity_even hasFraction
  omega

section Nearest

variable {numerator denominator : Nat}

/-- A number below the overflow is rounded to a finite magnitude, in whose span it
lies. -/
theorem roundsTo_nearest (hasFraction : 0 < format.fractionBits) (positive : 0 < denominator)
    (infinityPos : 0 < format.infinity)
    (below : (numerator : ℚ) / denominator < format.overflow) :
    format.nearest numerator denominator < format.infinity ∧
      format.RoundsTo ((numerator : ℚ) / denominator) (format.nearest numerator denominator) := by
  have halvesPos := format.cast_halvesInOne_pos
  have belowEnd := mul_lt_mul_of_pos_right below halvesPos
  rw [overflow_mul_halvesInOne infinityPos] at belowEnd
  have le := nearest_le_of_lt_high hasFraction positive belowEnd
  have finite : format.nearest numerator denominator < format.infinity := by omega
  exact ⟨finite, (nearest_eq_iff_roundsTo hasFraction positive finite).mp rfl⟩

/-- From the overflow on, rounding gives infinity. -/
theorem nearest_eq_infinity (hasFraction : 0 < format.fractionBits) (positive : 0 < denominator)
    (above : format.overflow ≤ (numerator : ℚ) / denominator) :
    format.nearest numerator denominator = format.infinity := by
  by_contra different
  have finite : format.nearest numerator denominator < format.infinity :=
    lt_of_le_of_ne (min_le_left _ _) different
  have rounds := (nearest_eq_iff_roundsTo hasFraction positive finite).mp rfl
  exact absurd above (not_le.mpr (rounds.lt_overflow hasFraction finite))

/-- Rounding is monotone. -/
theorem nearest_mono (hasFraction : 0 < format.fractionBits) {otherNumerator otherDenominator : Nat}
    (positive : 0 < denominator) (otherPositive : 0 < otherDenominator)
    (le : (numerator : ℚ) / denominator ≤ (otherNumerator : ℚ) / otherDenominator) :
    format.nearest numerator denominator ≤ format.nearest otherNumerator otherDenominator := by
  have covers := covers_nearest numerator hasFraction positive
  have otherCovers := covers_nearest otherNumerator hasFraction otherPositive
  have halvesPos := format.cast_halvesInOne_pos
  rw [nearest_eq_min, nearest_eq_min]
  apply min_le_min_left
  rcases le.lt_or_eq with less | equal
  · apply format.le_of_low_lt_high
    have touching := (covers.low_le.trans_lt (mul_lt_mul_of_pos_right less halvesPos)).trans_le
      otherCovers.le_high
    exact_mod_cast touching
  · rw [equal] at covers
    exact (covers_unique covers otherCovers).le

theorem nearest_le_nearest (hasFraction : 0 < format.fractionBits) (positive : 0 < denominator)
    {larger : Nat} (le : numerator ≤ larger) :
    format.nearest numerator denominator ≤ format.nearest larger denominator := by
  apply nearest_mono hasFraction positive positive
  exact div_le_div_of_nonneg_right (by exact_mod_cast le) (Nat.cast_nonneg _)

/-- Rounding depends on the number only. -/
theorem nearest_congr (hasFraction : 0 < format.fractionBits)
    {otherNumerator otherDenominator : Nat} (positive : 0 < denominator)
    (otherPositive : 0 < otherDenominator)
    (equal : numerator * otherDenominator = otherNumerator * denominator) :
    format.nearest numerator denominator = format.nearest otherNumerator otherDenominator := by
  have same : (numerator : ℚ) / denominator = (otherNumerator : ℚ) / otherDenominator := by
    rw [div_eq_div_iff (by exact_mod_cast positive.ne') (by exact_mod_cast otherPositive.ne')]
    exact_mod_cast equal
  exact le_antisymm (nearest_mono hasFraction positive otherPositive same.le)
    (nearest_mono hasFraction otherPositive positive same.ge)

theorem units_nearest (finite : format.nearest numerator denominator < format.infinity) :
    format.units (format.nearest numerator denominator) =
      format.units (format.unboundedNearest (numerator * format.unitsInOne) denominator) := by
  rw [nearest_eq_min] at finite ⊢
  rw [min_eq_right (by omega)]

end Nearest

/-! ## Powers of two -/

theorem roundHalfEven_mul_mul (numerator denominator : Nat) {factor : Nat} (positive : 0 < factor) :
    roundHalfEven (numerator * factor) (denominator * factor) =
      roundHalfEven numerator denominator := by
  have remainder : 2 * (numerator * factor % (denominator * factor)) =
      2 * (numerator % denominator) * factor := by
    rw [Nat.mul_mod_mul_right, Nat.mul_assoc]
  unfold roundHalfEven
  simp only [Nat.mul_div_mul_right _ _ positive, remainder, Nat.mul_lt_mul_right positive]

theorem log2_mul_two_pow_div {numerator denominator : Nat} (large : 0 < numerator / denominator)
    (places : Nat) :
    (numerator * 2 ^ places / denominator).log2 = (numerator / denominator).log2 + places := by
  have positive : 0 < denominator := Nat.pos_of_ne_zero fun isZero => by simp [isZero] at large
  have lower := Nat.log2_self_le large.ne'
  have upper := (Nat.log2_lt large.ne').mp (Nat.lt_succ_self _)
  rw [Nat.le_div_iff_mul_le positive] at lower
  rw [Nat.div_lt_iff_lt_mul positive] at upper
  have scaledLower : 2 ^ ((numerator / denominator).log2 + places) ≤
      numerator * 2 ^ places / denominator := by
    rw [Nat.le_div_iff_mul_le positive, pow_add, mul_right_comm]
    exact Nat.mul_le_mul_right _ lower
  have scaledUpper : numerator * 2 ^ places / denominator <
      2 ^ ((numerator / denominator).log2 + places + 1) := by
    rw [Nat.div_lt_iff_lt_mul positive, Nat.add_right_comm, pow_add, mul_right_comm]
    exact (Nat.mul_lt_mul_right (Nat.two_pow_pos places)).mpr upper
  exact (Nat.log2_eq_iff (Nat.two_pow_pos _ |>.trans_le scaledLower).ne').mpr ⟨scaledLower, scaledUpper⟩

/-- A power of two is left alone by rounding. -/
theorem units_unboundedNearest_mul_two_pow (format : Format) {numerator denominator : Nat}
    (positive : 0 < denominator) (large : format.fractions ≤ numerator / denominator)
    (places : Nat) :
    format.units (format.unboundedNearest (numerator * 2 ^ places) denominator) =
      format.units (format.unboundedNearest numerator denominator) * 2 ^ places := by
  have quotientPos : 0 < numerator / denominator := format.fractions_pos.trans_le large
  have leading : format.fractionBits ≤ (numerator / denominator).log2 :=
    (Nat.le_log2 quotientPos.ne').mpr large
  have shift : (numerator / denominator).log2 + places - format.fractionBits =
      (numerator / denominator).log2 - format.fractionBits + places := by omega
  rw [format.units_unboundedNearest _ positive, format.units_unboundedNearest _ positive,
    log2_mul_two_pow_div quotientPos, shift, pow_add, ← Nat.mul_assoc denominator,
    roundHalfEven_mul_mul _ _ (Nat.two_pow_pos places), Nat.mul_assoc]

end Format

/-! ## Signed patterns -/

namespace Pattern

variable {format : Format}

@[simp]
theorem negative_round (negative : Bool) (numerator denominator : Nat) :
    (round negative numerator denominator : Pattern format).negative = negative :=
  rfl

@[simp]
theorem magnitude_round (negative : Bool) (numerator denominator : Nat) :
    (round negative numerator denominator : Pattern format).magnitude =
      format.nearest numerator denominator :=
  rfl

@[simp]
theorem negative_ofInt (number : Int) :
    (ofInt number : Pattern format).negative = decide (number < 0) :=
  rfl

@[simp]
theorem magnitude_ofInt (number : Int) :
    (ofInt number : Pattern format).magnitude = format.nearest number.natAbs 1 :=
  rfl

/-- The number that a finite pattern stands for. -/
def real (pattern : Pattern format) : ℚ :=
  withSign pattern.negative (format.real pattern.magnitude)

/-- No finite pattern is nearer to the number, and where another number of the format is
as near this one is even. -/
structure IsNearest (pattern : Pattern format) (number : ℚ) : Prop where
  finite : pattern.isFinite = true
  least : ∀ other : Pattern format, other.isFinite = true →
    |pattern.real - number| ≤ |other.real - number|
  even : ∀ other : Pattern format, other.isFinite = true → other.real ≠ pattern.real →
    |pattern.real - number| = |other.real - number| → pattern.magnitude % 2 = 0

theorem abs_withSign_sub (negative : Bool) (first second : ℚ) :
    |withSign negative first - withSign negative second| = |first - second| := by
  cases negative with
  | false => rfl
  | true =>
      simp only [withSign, if_true]
      rw [← abs_neg]
      congr 1
      ring

/-- Every pattern stands for a magnitude, or the opposite of one, with any sign. -/
theorem exists_real_eq_withSign (negative : Bool) (pattern : Pattern format) :
    ∃ value, pattern.real = withSign negative value ∧
      (value = format.real pattern.magnitude ∨ value = -format.real pattern.magnitude) := by
  by_cases same : pattern.negative = negative
  · exact ⟨_, by rw [real, same], Or.inl rfl⟩
  · refine ⟨_, ?_, Or.inr rfl⟩
    rw [real, Bool.eq_not.mpr same]
    cases negative <;> simp [withSign]

/-- The nearest magnitude with the sign of the number is the nearest pattern.  A pattern
with the other sign is as near only if it is a zero. -/
theorem isNearest_withSign {number : ℚ} (nonneg : 0 ≤ number) {pattern : Pattern format}
    (nearest : format.IsNearest number pattern.magnitude) :
    pattern.IsNearest (withSign pattern.negative number) := by
  have infinityPos : 0 < format.infinity := (Nat.zero_le _).trans_lt nearest.finite
  have zeroLeast := nearest.least 0 infinityPos
  rw [Format.real_zero, zero_sub, abs_neg, abs_of_nonneg nonneg] at zeroLeast
  have opposite : ∀ magnitude,
      |-format.real magnitude - number| = format.real magnitude + number := by
    intro magnitude
    have magnitudeNonneg := format.real_nonneg magnitude
    rw [← abs_neg, abs_of_nonneg (by linarith)]
    ring
  refine ⟨by simpa [isFinite] using nearest.finite, fun other finite => ?_,
    fun other finite different tie => ?_⟩
  · obtain ⟨value, realEq, rfl | rfl⟩ := exists_real_eq_withSign pattern.negative other
    · rw [real, realEq, abs_withSign_sub, abs_withSign_sub]
      exact nearest.least _ (by simpa [isFinite] using finite)
    · rw [real, realEq, abs_withSign_sub, abs_withSign_sub, opposite]
      linarith [format.real_nonneg other.magnitude]
  · obtain ⟨value, realEq, rfl | rfl⟩ := exists_real_eq_withSign pattern.negative other
    · rw [real, realEq, abs_withSign_sub, abs_withSign_sub] at tie
      refine nearest.even _ (by simpa [isFinite] using finite) ?_ tie
      intro same
      exact different (by rw [realEq, real, same])
    · rw [real, realEq, abs_withSign_sub, abs_withSign_sub, opposite] at tie
      have isZero : format.real other.magnitude = 0 :=
        le_antisymm (by linarith) (format.real_nonneg _)
      rw [isZero, zero_add] at tie
      refine nearest.even 0 infinityPos ?_ ?_
      · intro same
        apply different
        rw [realEq, real, ← same, isZero, Format.real_zero, neg_zero]
      · rw [tie, Format.real_zero, zero_sub, abs_neg, abs_of_nonneg nonneg]

/-- A nearest pattern with the sign of the number has the nearest magnitude. -/
theorem IsNearest.magnitude {pattern : Pattern format} {number : ℚ}
    (nearest : pattern.IsNearest (withSign pattern.negative number)) :
    format.IsNearest number pattern.magnitude := by
  have error : ∀ other : Pattern format, other.negative = pattern.negative →
      |other.real - withSign pattern.negative number| =
        |format.real other.magnitude - number| := by
    intro other sign
    rw [real, sign, abs_withSign_sub]
  have withMagnitude : ∀ other < format.infinity, ∃ candidate : Pattern format,
      candidate.negative = pattern.negative ∧ candidate.magnitude = other :=
    fun other finite =>
      ⟨⟨pattern.negative, other, finite.trans format.infinity_lt_magnitudes⟩, rfl, rfl⟩
  refine ⟨isFinite_iff.mp nearest.finite, fun other finite => ?_, fun other finite different => ?_⟩
  · obtain ⟨candidate, sign, rfl⟩ := withMagnitude other finite
    rw [← error pattern rfl, ← error candidate sign]
    exact nearest.least candidate (isFinite_iff.mpr finite)
  · obtain ⟨candidate, sign, rfl⟩ := withMagnitude other finite
    rw [← error pattern rfl, ← error candidate sign]
    apply nearest.even candidate (isFinite_iff.mpr finite)
    intro same
    apply format.real_strictMono.injective.ne different
    rw [real, real, sign] at same
    have distance := abs_withSign_sub pattern.negative (format.real candidate.magnitude)
      (format.real pattern.magnitude)
    rw [same, sub_self, abs_zero] at distance
    exact sub_eq_zero.mp (abs_eq_zero.mp distance.symm)

/-- What rounding makes of a number with a sign: the nearest pattern, or infinity from
the overflow on. -/
structure IsRounding (pattern : Pattern format) (negative : Bool) (number : ℚ) : Prop where
  sign : pattern.negative = negative
  nearest : number < format.overflow → pattern.IsNearest (withSign negative number)
  infinite : format.overflow ≤ number → pattern = infinite negative

theorem ext_iff {first second : Pattern format} :
    first = second ↔ first.negative = second.negative ∧ first.magnitude = second.magnitude := by
  cases first
  cases second
  simp

section Rounding

variable {pattern : Pattern format} {number : ℚ}

theorem isRounding_of_roundsTo (hasFraction : 0 < format.fractionBits) (nonneg : 0 ≤ number)
    (finite : pattern.isFinite = true) (rounds : format.RoundsTo number pattern.magnitude) :
    pattern.IsRounding pattern.negative number where
  sign := rfl
  nearest _ := isNearest_withSign nonneg (rounds.isNearest (isFinite_iff.mp finite))
  infinite above :=
    absurd above (not_le.mpr (rounds.lt_overflow hasFraction (isFinite_iff.mp finite)))

/-- A finite pattern is the rounding of the numbers in its span only. -/
theorem IsRounding.roundsTo (hasFraction : 0 < format.fractionBits) (nonneg : 0 ≤ number)
    (finite : pattern.isFinite = true) {negative : Bool}
    (rounding : pattern.IsRounding negative number) :
    format.RoundsTo number pattern.magnitude := by
  have infinityPos : 0 < format.infinity := (Nat.zero_le _).trans_lt (isFinite_iff.mp finite)
  have below : number < format.overflow := by
    by_contra notBelow
    rw [rounding.infinite (not_lt.mp notBelow)] at finite
    exact absurd (isFinite_iff.mp finite) (lt_irrefl _)
  have nearest := rounding.nearest below
  rw [← rounding.sign] at nearest
  have quotient : (number.num.toNat : ℚ) / number.den = number := by
    have numerator : ((number.num.toNat : Int) : ℚ) = number.num := by
      rw [Int.toNat_of_nonneg (Rat.num_nonneg.mpr nonneg)]
    rw [← Int.cast_natCast, numerator, Rat.num_div_den]
  obtain ⟨roundedFinite, rounds⟩ :=
    Format.roundsTo_nearest hasFraction number.den_pos infinityPos (quotient.trans_lt below)
  rw [quotient] at rounds
  exact (rounds.isNearest roundedFinite).unique nearest.magnitude ▸ rounds

/-- Rounding has one result. -/
theorem IsRounding.unique {negative : Bool} {other : Pattern format}
    (rounding : pattern.IsRounding negative number)
    (otherRounding : other.IsRounding negative number) : pattern = other := by
  rcases lt_or_ge number format.overflow with below | above
  · have nearest := rounding.nearest below
    have otherNearest := otherRounding.nearest below
    rw [← rounding.sign] at nearest
    rw [← otherRounding.sign] at otherNearest
    exact ext_iff.mpr ⟨rounding.sign.trans otherRounding.sign.symm,
      nearest.magnitude.unique otherNearest.magnitude⟩
  · rw [rounding.infinite above, otherRounding.infinite above]

theorem isRounding_round (hasFraction : 0 < format.fractionBits)
    (infinityPos : 0 < format.infinity) (negative : Bool) (numerator : Nat) {denominator : Nat}
    (positive : 0 < denominator) :
    (round negative numerator denominator : Pattern format).IsRounding negative
      ((numerator : ℚ) / denominator) where
  sign := rfl
  nearest below := by
    obtain ⟨finite, rounds⟩ := Format.roundsTo_nearest hasFraction positive infinityPos below
    exact isNearest_withSign (by positivity) (rounds.isNearest finite)
  infinite above := ext_iff.mpr ⟨rfl, Format.nearest_eq_infinity hasFraction positive above⟩

end Rounding

end Pattern

end PointRecords.Binary
