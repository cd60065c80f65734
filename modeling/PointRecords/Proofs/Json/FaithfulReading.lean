import PointRecords.Proofs.Json.FarScaling
import PointRecords.Proofs.Json.Truncation
import PointRecords.Proofs.Json.Words

/-!
# Coordinates are read faithfully

A numeral of any length is read as a coordinate that is faithful to the number it
denotes.  The digits that are dropped, the powers of ten, every product and every
quotient move the number; together they move it by much less than what keeps it from
the ends of a span of single precision.
-/

namespace PointRecords.Json

open Decimal Binary

namespace Numeral

/-- The number that a numeral denotes, without its sign. -/
def absolute (numeral : Numeral) : ℚ :=
  numeral.mantissa * 10 ^ numeral.place

/-- The number that a numeral denotes. -/
def real (numeral : Numeral) : ℚ :=
  Pattern.withSign numeral.negative numeral.absolute

theorem absolute_nonneg (numeral : Numeral) : 0 ≤ numeral.absolute := by
  unfold absolute
  positivity

/-! ## Double precision -/

theorem absolute_eq (numeral : Numeral) :
    numeral.absolute =
      numeral.mantissa * 10 ^ (-(numeral.fraction.length : Int)) * 10 ^ numeral.power10 := by
  rw [absolute, place, sub_eq_neg_add, zpow_add₀ (by norm_num), mul_assoc]

/-- What is collected and then scaled differs from the number by less than one part in
two to the sixtieth. -/
theorem abs_collected_mul_sub_le {numeral : Numeral} (wholeDigits : AreDigits numeral.whole)
    (fractionDigits : AreDigits numeral.fraction) :
    |(numeral.collected.1 : ℚ) * 10 ^ (numeral.collected.2 + numeral.power10) - numeral.absolute| ≤
      numeral.absolute / 2 ^ 60 := by
  have near := (abs_collected_sub_le wholeDigits fractionDigits).2
  have powerPos : (0 : ℚ) < 10 ^ numeral.power10 := by positivity
  rw [absolute_eq, zpow_add₀ (by norm_num), ← mul_assoc, ← sub_mul, abs_mul, abs_of_pos powerPos,
    mul_div_right_comm]
  exact mul_le_mul_of_nonneg_right near powerPos.le

/-- Below the reach of exponents nothing is left of so few digits. -/
theorem absolute_le_of_power10_le {numeral : Numeral} (wholeDigits : AreDigits numeral.whole)
    (fractionDigits : AreDigits numeral.fraction) (short : numeral.whole.length < 2 ^ 30)
    (far : numeral.power10 ≤ -(exponentLimit : Int)) : numeral.absolute ≤ 1 / 2 ^ 200 := by
  have digits := value_lt (areDigits_append.mpr ⟨wholeDigits, fractionDigits⟩)
  rw [List.length_append] at digits
  have mantissaLe : (numeral.mantissa : ℚ) ≤
      10 ^ ((numeral.whole.length : Int) + numeral.fraction.length) := by
    rw [← Nat.cast_add, zpow_natCast]
    exact_mod_cast digits.le
  unfold exponentLimit at far
  calc numeral.absolute
      ≤ 10 ^ ((numeral.whole.length : Int) + numeral.fraction.length) * 10 ^ numeral.place :=
        mul_le_mul_of_nonneg_right mantissaLe (by positivity)
    _ = 10 ^ ((numeral.whole.length : Int) + numeral.power10) := by
        rw [← zpow_add₀ (by norm_num), place]
        congr 1
        omega
    _ ≤ 10 ^ (-100 : Int) := zpow_le_zpow_right₀ (by norm_num) (by omega)
    _ ≤ 1 / 2 ^ 200 := by norm_num

/-- Whatever is evaluated in double precision is near the number. -/
theorem abs_real_floatingMagnitude_sub_le {numeral : Numeral} {result : Pattern .double}
    (wholeDigits : AreDigits numeral.whole) (fractionDigits : AreDigits numeral.fraction)
    (short : numeral.whole.length < 2 ^ 30) (accepted : numeral.floatingMagnitude = some result) :
    result.magnitude < Format.double.infinity ∧
      |Format.double.real result.magnitude - numeral.absolute| ≤
        numeral.absolute / 2 ^ 49 + 1 / 2 ^ 200 := by
  have nonneg := numeral.absolute_nonneg
  have collectedNear := abs_collected_mul_sub_le wholeDigits fractionDigits
  have fits := (abs_collected_sub_le wholeDigits fractionDigits).1
  obtain ⟨collectedAbove, collectedBelow⟩ := abs_le.mp collectedNear
  by_cases small : numeral.power10.natAbs < exponentLimit
  · rw [floatingMagnitude_eq_scaleBy small] at accepted
    obtain ⟨finite, scaledNear⟩ := abs_real_scaleBy_sub_le fits accepted
    obtain ⟨scaledAbove, scaledBelow⟩ := abs_le.mp scaledNear
    refine ⟨finite, ?_⟩
    rw [abs_le]
    constructor <;> linarith
  · obtain ⟨rfl, nothing⟩ := floatingMagnitude_eq_zero (not_lt.mp small) accepted
    have zeroEq : (Pattern.zero : Pattern .double).magnitude = 0 := rfl
    have infinityPos : 0 < Format.double.infinity := by decide +kernel
    rw [zeroEq]
    refine ⟨infinityPos, ?_⟩
    rw [Format.real_zero, zero_sub, abs_neg, abs_of_nonneg nonneg]
    rcases nothing with isZero | far
    · rw [isZero, Nat.cast_zero, zero_mul] at collectedAbove
      have : numeral.absolute ≤ 0 := by linarith
      have tinyNonneg : (0 : ℚ) ≤ 1 / 2 ^ 200 := by norm_num
      linarith
    · have tiny := absolute_le_of_power10_le wholeDigits fractionDigits short far
      linarith

/-! ## Single precision -/

theorem absolute_of_isInteger {numeral : Numeral} (isInteger : numeral.isInteger = true) :
    numeral.absolute = value numeral.whole := by
  obtain ⟨negative, whole, fraction, exponent⟩ := numeral
  simp only [Numeral.isInteger, Bool.and_eq_true, List.isEmpty_iff, Option.isNone_iff_eq_none]
    at isInteger
  obtain ⟨rfl, rfl⟩ := isInteger
  simp [absolute, mantissa, place, power10]

/-- What is near the number in double precision is faithful to it in single
precision. -/
theorem isFaithful_convert {magnitude : Nat} {number : ℚ} (nonneg : 0 ≤ number)
    (finite : magnitude < Format.double.infinity)
    (near : |Format.double.real magnitude - number| ≤ number / 2 ^ 49 + 1 / 2 ^ 200) :
    Format.single.IsFaithful number (Format.double.convert .single magnitude) := by
  rw [Format.convert, if_pos finite]
  refine Format.isFaithful_nearest Format.isProper_single.hasFraction
    Format.double.unitsInOne_pos (near.trans ?_)
  have fractions : (Format.single.fractions : ℚ) = 2 ^ 23 := by
    exact_mod_cast (by decide : Format.single.fractions = 2 ^ 23)
  have units : (Format.single.unitsInOne : ℚ) = 2 ^ 149 := by
    exact_mod_cast (by decide +kernel : Format.single.unitsInOne = 2 ^ 149)
  rw [fractions, units]
  have tiny : (1 : ℚ) / 2 ^ 200 ≤ 1 / (8 * 2 ^ 149) := by norm_num
  linarith

theorem isFaithful_ofInt (number : Int) :
    Format.single.IsFaithful number.natAbs (Pattern.ofInt number : Coordinate).magnitude := by
  have whole : (number.natAbs : ℚ) = (number.natAbs : ℚ) / (1 : Nat) := by simp
  rw [whole]
  exact Format.isFaithful_nearest_self Format.isProper_single.hasFraction one_pos

/-- A coordinate has the sign of its numeral, and its magnitude is faithful to the
number. -/
theorem isFaithful_of_evaluate {numeral : Numeral} {number : Number} {coordinate : Coordinate}
    (wholeDigits : AreDigits numeral.whole) (fractionDigits : AreDigits numeral.fraction)
    (short : numeral.whole.length < 2 ^ 30) (evaluated : numeral.evaluate = some number)
    (isCoordinate : coordinateOfNumber number = .ok coordinate) :
    coordinate.negative = numeral.negative ∧
      Format.single.IsFaithful numeral.absolute coordinate.magnitude := by
  unfold evaluate at evaluated
  dsimp only at evaluated
  split at evaluated
  · rename_i isUnsigned
    simp only [Bool.and_eq_true, Bool.not_eq_true', decide_eq_true_eq] at isUnsigned
    cases evaluated
    cases isCoordinate
    have faithful := isFaithful_ofInt (value numeral.whole)
    rw [Int.natAbs_natCast, ← absolute_of_isInteger isUnsigned.1.1] at faithful
    exact ⟨by simp [Pattern.ofInt, Pattern.round, isUnsigned.1.2], faithful⟩
  · split at evaluated
    · rename_i isNegative
      simp only [Bool.and_eq_true, bne_iff_ne, decide_eq_true_eq] at isNegative
      cases evaluated
      cases isCoordinate
      have positive : 0 < value numeral.whole := by omega
      have faithful := isFaithful_ofInt (-value numeral.whole)
      rw [Int.natAbs_neg, Int.natAbs_natCast, ← absolute_of_isInteger isNegative.1.1.1] at faithful
      exact ⟨by simp [Pattern.ofInt, Pattern.round, isNegative.1.1.2, positive], faithful⟩
    · rw [Option.map_eq_some_iff] at evaluated
      obtain ⟨result, floating, rfl⟩ := evaluated
      cases isCoordinate
      obtain ⟨finite, near⟩ :=
        abs_real_floatingMagnitude_sub_le wholeDigits fractionDigits short floating
      exact ⟨rfl, isFaithful_convert numeral.absolute_nonneg finite near⟩

/-! ## Literals -/

/-- A numeral that is followed by something is a literal of its own. -/
theorem SpelledAt.exists_literal {text rest : List Char} {numeral : Numeral}
    (spelled : numeral.SpelledAt text rest) :
    ∃ literal, text = literal ++ rest ∧ numeral.SpelledAt literal [] := by
  obtain ⟨literal, rfl, -⟩ := isFramed_spelled numeral text rest spelled
  exact ⟨literal, rfl, (isFramed_spelled numeral).append_iff.mp spelled⟩

theorem SpelledAt.areDigits {text rest : List Char} {numeral : Numeral}
    (spelled : numeral.SpelledAt text rest) :
    AreDigits numeral.whole ∧ AreDigits numeral.fraction := by
  obtain ⟨unsigned, -, -, areDigits, -, afterWhole, afterFraction, -, isFraction, -⟩ := spelled
  refine ⟨areDigits, ?_⟩
  rcases isFraction with ⟨isEmpty, -⟩ | ⟨-, fractionDigits, -⟩
  · rw [isEmpty]
    exact areDigits_nil
  · exact fractionDigits

theorem SpelledAt.length_whole_le {text rest : List Char} {numeral : Numeral}
    (spelled : numeral.SpelledAt text rest) : numeral.whole.length ≤ text.length := by
  obtain ⟨unsigned, rfl, -, -, -, afterWhole, afterFraction, rfl, -⟩ := spelled
  simp only [List.length_append, List.length_map]
  omega

/-- Only the sign of a literal is a minus at its beginning. -/
theorem SpelledAt.negative_iff {text rest : List Char} {numeral : Numeral}
    (spelled : numeral.SpelledAt text rest) :
    numeral.negative = true ↔ text.head? = some '-' := by
  obtain ⟨unsigned, rfl, nonempty, areDigits, -, afterWhole, afterFraction, rfl, -⟩ := spelled
  cases numeral.negative with
  | true => simp
  | false =>
      obtain ⟨digit, others, wholeEq⟩ := List.exists_cons_of_ne_nil nonempty
      rw [wholeEq] at areDigits ⊢
      have notSign := (digitChar_ne_sign (areDigits_cons.mp areDigits).1).2
      simp [notSign]

end Numeral

/-- What a coordinate owes to the literal it is read from: it is faithful to the number,
its sign is that of the literal, and it is at most one magnitude away from the number
rounded once. -/
structure Numeral.ReadsFaithfully (numeral : Numeral) (literal : List Char)
    (coordinate : Coordinate) : Prop where
  isFaithful : coordinate.IsFaithful numeral.real
  sign : coordinate.negative = true ↔ literal.head? = some '-'
  le_succ : coordinate.magnitude ≤ Format.single.ofDecimal numeral.mantissa numeral.place + 1
  ge_pred : Format.single.ofDecimal numeral.mantissa numeral.place ≤ coordinate.magnitude + 1

/-- A literal, if it is not too long to be counted, that is read faithfully. -/
def FaithfulAt (text : List Char) (coordinate : Coordinate) (rest : List Char) : Prop :=
  ∃ literal numeral, text = literal ++ rest ∧ Numeral.SpelledAt literal numeral [] ∧
    (literal.length < 2 ^ 30 → numeral.ReadsFaithfully literal coordinate)

theorem faithfulAt_of_coordinateAt {text rest : List Char} {coordinate : Coordinate}
    (isCoordinate : CoordinateAt text coordinate rest) : FaithfulAt text coordinate rest := by
  obtain ⟨numeral, number, spelled, evaluated, isCoordinate⟩ := isCoordinate
  obtain ⟨literal, textEq, isLiteral⟩ := spelled.exists_literal
  refine ⟨literal, numeral, textEq, isLiteral, fun short => ?_⟩
  obtain ⟨wholeDigits, fractionDigits⟩ := isLiteral.areDigits
  obtain ⟨sign, faithful⟩ := Numeral.isFaithful_of_evaluate wholeDigits fractionDigits
    (isLiteral.length_whole_le.trans_lt short) evaluated isCoordinate
  have rounded := Format.isFaithful_ofDecimal Format.isProper_single numeral.mantissa numeral.place
  have signed := Pattern.isFaithful_withSign numeral.absolute_nonneg faithful
  rw [sign] at signed
  exact ⟨signed, by rw [sign, isLiteral.negative_iff], faithful.le_succ rounded,
    rounded.le_succ faithful⟩

end PointRecords.Json

namespace PointRecords.Point

open Json

theorem recordText_of_ofJson {text : String} {point : Point} (accepted : ofJson text = .ok point) :
    RecordText ⟨"x", "y", "z"⟩ CoordinateAt text.toList point.toTriple := by
  refine (read_eq_ok_iff isNamed_pointShape).mp ?_
  unfold ofJson at accepted
  cases isRead : read pointShape text.toList with
  | error fault =>
      rw [isRead] at accepted
      cases accepted
  | ok fields =>
      rw [isRead] at accepted
      cases accepted
      rfl

/-- The coordinates of a point that is read from a text are faithful to the literals in
it. -/
theorem ofJson_faithful {text : String} {point : Point} (accepted : ofJson text = .ok point) :
    RecordText ⟨"x", "y", "z"⟩ FaithfulAt text.toList point.toTriple :=
  (recordText_of_ofJson accepted).mono fun _ _ _ => faithfulAt_of_coordinateAt

/-- A tenth, more digits than a significand holds, and a number that underflows. -/
def roundedLiterals : String :=
  "\x7b\"x\":0.1,\"y\":-123456789012345678901234567890.5,\"z\":1e-400\x7d"

def roundedPoint : Point :=
  ⟨⟨false, 1036831949, by decide⟩, ⟨true, 1875342472, by decide⟩,
    ⟨false, 0, Binary.Format.single.magnitudes_pos⟩⟩

theorem ofJson_faithful_roundedLiterals :
    ofJson roundedLiterals = .ok roundedPoint ∧
      RecordText ⟨"x", "y", "z"⟩ FaithfulAt roundedLiterals.toList roundedPoint.toTriple := by
  have accepted : ofJson roundedLiterals = .ok roundedPoint := by
    have some : (ofJson roundedLiterals).toOption = .some roundedPoint := by decide +kernel
    cases isRead : ofJson roundedLiterals with
    | error fault =>
        rw [isRead] at some
        cases some
    | ok point =>
        rw [isRead] at some
        cases some
        rfl
  exact ⟨accepted, ofJson_faithful accepted⟩

end PointRecords.Point
