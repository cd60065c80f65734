import PointRecords.Proofs.Json.Coordinates

/-!
# Digits that are dropped

A significand takes digits while they fit 64 bits: first those before the point, then
those behind it, also if some before the point were dropped already.  Either way the
digits that it holds and the digits that were written agree as far as the significand
goes, so dropping digits moves the number by less than one part in two to the sixtieth.
-/

namespace PointRecords.Json.Numeral

open Decimal

/-- Digits are appended up to the first that does not fit. -/
theorem exists_of_fill {significand : Nat} (fits : significand < unsignedLimit)
    (digitList : List Nat) :
    ∃ front back, digitList = front ++ back ∧
      fill significand digitList =
        (significand * 10 ^ front.length + value front, front.length) ∧
      significand * 10 ^ front.length + value front < unsignedLimit ∧
      ∀ digit ∈ back.head?,
        unsignedLimit ≤ 10 * (significand * 10 ^ front.length + value front) + digit := by
  induction digitList generalizing significand with
  | nil => exact ⟨[], [], rfl, by simp [fill], by simpa using fits, by simp⟩
  | cons digit digitList ih =>
      by_cases appended : 10 * significand + digit < unsignedLimit
      · obtain ⟨front, back, split, filled, filledFits, full⟩ := ih appended
        have same : (10 * significand + digit) * 10 ^ front.length + value front =
            significand * 10 ^ (digit :: front).length + value (digit :: front) := by
          rw [List.length_cons, value_cons, pow_succ]
          ring
        rw [same] at filled filledFits full
        refine ⟨digit :: front, back, by rw [split, List.cons_append], ?_, filledFits, full⟩
        rw [fill, if_pos appended, filled, List.length_cons]
      · refine ⟨[], digit :: digitList, rfl, by simp [fill, appended], by simpa using fits, ?_⟩
        simpa using not_lt.mp appended

/-- The significand of a numeral, and the power of ten that it is short of the number,
the exponent apart. -/
def collected (numeral : Numeral) : Nat × Int :=
  let (wholeFill, kept) := fill 0 numeral.whole
  let (significand, places) := fill wholeFill numeral.fraction
  (significand, numeral.whole.length - kept - places)

/-- Unless the exponent is too large to be read, the significand is scaled once for
all. -/
theorem floatingMagnitude_eq_scaleBy {numeral : Numeral}
    (small : numeral.power10.natAbs < exponentLimit) :
    numeral.floatingMagnitude =
      scaleBy (.ofInt numeral.collected.1) (numeral.collected.2 + numeral.power10) := by
  obtain ⟨negative, whole, fraction, exponent⟩ := numeral
  cases exponent with
  | none => simp [floatingMagnitude, collected, power10]
  | some exponent =>
      obtain ⟨exponentNegative, digitList⟩ := exponent
      have within : ¬ exponentLimit ≤ value digitList := by
        cases exponentNegative <;> simpa [power10, signed] using small
      cases exponentNegative <;>
        simp [floatingMagnitude, collected, power10, signed, within, sub_eq_add_neg]

/-- Otherwise only zero is left. -/
theorem floatingMagnitude_eq_zero {numeral : Numeral} {result : Binary.Pattern .double}
    (large : exponentLimit ≤ numeral.power10.natAbs)
    (accepted : numeral.floatingMagnitude = some result) :
    result = .zero ∧ (numeral.collected.1 = 0 ∨ numeral.power10 ≤ -(exponentLimit : Int)) := by
  obtain ⟨negative, whole, fraction, exponent⟩ := numeral
  cases exponent with
  | none => simp [power10, exponentLimit] at large
  | some exponent =>
      obtain ⟨exponentNegative, digitList⟩ := exponent
      have beyond : exponentLimit ≤ value digitList := by
        cases exponentNegative <;> simpa [power10, signed] using large
      simp only [floatingMagnitude, beyond, if_true] at accepted
      split at accepted
      · rename_i isZero
        cases accepted
        refine ⟨rfl, isZero.imp_right fun isNegative => ?_⟩
        simp only [power10, signed, isNegative, if_true]
        omega
      · cases accepted

/-- Digits behind the last one that is kept stand for less than one unit of it. -/
theorem value_append_bounds (front : List Nat) {back : List Nat} (areDigits : AreDigits back) :
    (value front : ℚ) ≤ value (front ++ back) * 10 ^ (-(back.length : Int)) ∧
      (value (front ++ back) : ℚ) * 10 ^ (-(back.length : Int)) ≤ value front + 1 := by
  have powerPos : (0 : ℚ) < 10 ^ back.length := by positivity
  have below := value_lt areDigits
  rw [value_append, zpow_neg, zpow_natCast, ← div_eq_mul_inv]
  constructor
  · rw [le_div_iff₀ powerPos]
    exact_mod_cast Nat.le_add_right _ _
  · rw [div_le_iff₀ powerPos]
    exact_mod_cast (by rw [Nat.succ_mul]; omega :
      value front * 10 ^ back.length + value back ≤ (value front + 1) * 10 ^ back.length)

/-- Numbers that agree in so many digits agree up to one part in two to the
sixtieth. -/
theorem abs_sub_le_of_common_front {front first second : List Nat} (firstDigits : AreDigits first)
    (secondDigits : AreDigits second) (long : 2 ^ 60 ≤ value front) (place : Int) :
    |(value (front ++ first) : ℚ) * 10 ^ (place - first.length) -
        value (front ++ second) * 10 ^ (place - second.length)| ≤
      value (front ++ second) * 10 ^ (place - second.length) / 2 ^ 60 := by
  obtain ⟨firstAbove, firstBelow⟩ := value_append_bounds front firstDigits
  obtain ⟨secondAbove, secondBelow⟩ := value_append_bounds front secondDigits
  have longRat : (2 : ℚ) ^ 60 ≤ value front := by exact_mod_cast long
  have placePos : (0 : ℚ) < 10 ^ place := by positivity
  have moved : ∀ digitList : List Nat, (10 : ℚ) ^ (place - digitList.length) =
      10 ^ (-(digitList.length : Int)) * 10 ^ place := by
    intro digitList
    rw [← zpow_add₀ (by norm_num), sub_eq_neg_add]
  rw [moved, moved, ← mul_assoc, ← mul_assoc, ← sub_mul, abs_mul, abs_of_pos placePos,
    mul_div_right_comm]
  refine mul_le_mul_of_nonneg_right ?_ placePos.le
  have unit : 1 ≤ (value (front ++ second) : ℚ) * 10 ^ (-(second.length : Int)) / 2 ^ 60 := by
    rw [le_div_iff₀ (by positivity)]
    linarith
  rw [abs_le]
  constructor <;> linarith

theorem long_of_full {significand digit : Nat} (isDigit : digit < 10)
    (full : unsignedLimit ≤ 10 * significand + digit) : 2 ^ 60 ≤ significand := by
  unfold unsignedLimit at full
  omega

/-- What is collected of the digits is the number up to the exponent, but for less than
one part in two to the sixtieth.  Digits are dropped behind the point only, or before it
too, and then what is collected behind it does not make good for them. -/
theorem abs_collected_sub_le {numeral : Numeral} (wholeDigits : AreDigits numeral.whole)
    (fractionDigits : AreDigits numeral.fraction) :
    numeral.collected.1 < unsignedLimit ∧
      |(numeral.collected.1 : ℚ) * 10 ^ numeral.collected.2 -
          numeral.mantissa * 10 ^ (-(numeral.fraction.length : Int))| ≤
        numeral.mantissa * 10 ^ (-(numeral.fraction.length : Int)) / 2 ^ 60 := by
  obtain ⟨negative, whole, fraction, exponent⟩ := numeral
  have zeroFits : 0 < unsignedLimit := by decide
  obtain ⟨wholeFront, wholeBack, rfl, wholeFill, wholeFits, wholeFull⟩ :=
    exists_of_fill zeroFits whole
  rw [Nat.zero_mul, Nat.zero_add] at wholeFill wholeFits wholeFull
  obtain ⟨front, back, rfl, fractionFill, fits, full⟩ := exists_of_fill wholeFits fraction
  rw [← value_append] at fractionFill fits full
  have collectedEq : collected ⟨negative, wholeFront ++ wholeBack, front ++ back, exponent⟩ =
      (value (wholeFront ++ front), (wholeBack.length : Int) - front.length) := by
    simp [collected, wholeFill, fractionFill]
  rw [collectedEq]
  refine ⟨fits, ?_⟩
  dsimp only [mantissa] at *
  rw [areDigits_append] at wholeDigits fractionDigits
  cases wholeBack with
  | nil =>
      rw [List.append_nil, ← List.append_assoc]
      cases back with
      | nil =>
          simp only [List.append_nil, List.length_nil, Nat.cast_zero, zero_sub, sub_self, abs_zero]
          positivity
      | cons digit back =>
          have long := long_of_full (areDigits_cons.mp fractionDigits.2).1 (full digit rfl)
          have near :=
            abs_sub_le_of_common_front areDigits_nil fractionDigits.2 long (-front.length)
          simpa [sub_eq_add_neg, add_comm] using near
  | cons digit wholeBack =>
      have long := long_of_full (areDigits_cons.mp wholeDigits.2).1 (wholeFull digit rfl)
      have restDigits := areDigits_append.mpr ⟨wholeDigits.2, areDigits_append.mpr fractionDigits⟩
      have near := abs_sub_le_of_common_front fractionDigits.1 restDigits long
        ((digit :: wholeBack).length : Int)
      rw [List.append_assoc]
      simpa using near

end PointRecords.Json.Numeral
