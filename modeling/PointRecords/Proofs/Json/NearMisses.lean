import PointRecords.Proofs.Decimal.NearMisses
import PointRecords.Proofs.Decimal.Shortest
import PointRecords.Proofs.Json.Scaling

/-!
# Decimals that nearly miss the end of a span

Reading a coordinate rounds up to three times.  That can only do harm next to the
end of a span, and decimals of at most eight digits come that near to an end, without
meeting it, in few cases.  They are all found by the search, and none of them does
harm: either the coordinate is read back all the same, or the decimal is not the
nearest to its coordinate and is not written.
-/

namespace PointRecords.Json

open Decimal Binary Format NearMiss

/-- The steps in half units: of decimals with an exponent, and of ends with a power of
two. -/
def steps (exponent : Int) (place : Nat) : Steps :=
  ⟨Format.single.gridNumerator exponent, gridDenominator exponent * 2 ^ place⟩

/-- What is read for a significand and its exponent is what they round to. -/
def Survives (significand : Nat) (exponent : Int) : Prop :=
  Format.double.convert .single (Numeral.scaled significand exponent) =
    Format.single.ofDecimal significand exponent

/-- The significand is the one that is found on its grid. -/
def IsFound (significand : Nat) (exponent : Int) : Prop :=
  (Format.single.span (Format.single.ofDecimal significand exponent)).nearestMultiple? .even
    (Format.single.gridNumerator exponent) (gridDenominator exponent) = some significand

/-- The pair is not a significand and an end, or else it does no harm. -/
def IsHarmless (exponent : Int) (place : Nat) (counts : Counts) : Prop :=
  counts.decimals % 10 = 0 ∨ counts.binaries % 2 = 0 ∨
    (place ≠ 0 ∧ counts.binaries ≤ Nat.pow 2 24) ∨ Survives counts.decimals exponent ∨
      (Nat.pow 10 7 ≤ counts.decimals ∧ ¬ IsFound counts.decimals exponent)

instance (exponent : Int) (place : Nat) : DecidablePred (IsHarmless exponent place) :=
  fun _ => inferInstanceAs (Decidable (_ = _ ∨ _ = _ ∨ (_ ≠ _ ∧ _ ≤ _) ∨ (_ : Nat) = _ ∨
    (_ ≤ _ ∧ ¬ (_ : Option Nat) = _)))

/-- No significand above this one comes near to an end with a coefficient of twenty-five
binary digits. -/
def most (steps : Steps) : Nat :=
  min (Nat.pow 10 8) (Nat.pow 2 76 * steps.binary / ((sharpness - 1) * steps.decimal))

/-- All pairs that are near are harmless, or the power of two is so large that the
coefficients are too short. -/
def isClear (exponent : Int) (place : Nat) : Bool :=
  let steps := steps exponent place
  (place != 0 &&
      decide ((sharpness + 1) * (most steps * steps.decimal) < Nat.pow 2 75 * steps.binary)) ||
    scan (fun counts => decide (IsHarmless exponent place counts)) steps (most steps)

theorem isClear_negative :
    (List.range 53).all (fun index => (List.range 254).all (isClear (Int.negSucc index))) = true := by
  decide +kernel

theorem isClear_nonnegative :
    (List.range 39).all (fun index => (List.range 254).all (isClear (Int.ofNat index))) = true := by
  decide +kernel

theorem isClear_of_le {exponent : Int} {place : Nat} (low : -53 ≤ exponent) (high : exponent ≤ 38)
    (placeLt : place < 254) : isClear exponent place = true := by
  cases exponent with
  | ofNat index =>
      rw [Int.ofNat_eq_natCast] at high
      have clear := List.all_eq_true.mp isClear_nonnegative index (List.mem_range.mpr (by omega))
      exact List.all_eq_true.mp clear place (List.mem_range.mpr placeLt)
  | negSucc index =>
      have clear := List.all_eq_true.mp isClear_negative index (List.mem_range.mpr (by omega))
      exact List.all_eq_true.mp clear place (List.mem_range.mpr placeLt)

/-- Near multiples are not far apart in size. -/
theorem apart_bounds {counts : Counts} {steps : Steps} (near : counts.IsNear steps) :
    (sharpness - 1) * (counts.decimals * steps.decimal) ≤
        sharpness * (counts.binaries * steps.binary) ∧
      sharpness * (counts.binaries * steps.binary) ≤
        (sharpness + 1) * (counts.decimals * steps.decimal) := by
  have below := Nat.dist_tri_left' (counts.decimals * steps.decimal) (counts.binaries * steps.binary)
  have above := Nat.dist_tri_left (counts.decimals * steps.decimal) (counts.binaries * steps.binary)
  have close : sharpness * Nat.dist (counts.decimals * steps.decimal)
      (counts.binaries * steps.binary) ≤ counts.decimals * steps.decimal := near.1
  have sharp : 0 < sharpness := Nat.two_pow_pos 51
  generalize counts.decimals * steps.decimal = decimal at *
  generalize counts.binaries * steps.binary = binary at *
  generalize Nat.dist decimal binary = apart at *
  have belowMul := Nat.mul_le_mul_left sharpness below
  have aboveMul := Nat.mul_le_mul_left sharpness above
  rw [Nat.mul_add] at belowMul aboveMul
  rw [Nat.sub_mul, Nat.add_mul]
  omega

theorem le_most {counts : Counts} {steps : Steps} (near : counts.IsNear steps)
    (positive : 0 < steps.decimal) (short : counts.decimals ≤ 10 ^ 8)
    (binariesLt : counts.binaries < 2 ^ 25) : counts.decimals ≤ most steps := by
  refine le_min short ?_
  have sharp : 0 < sharpness - 1 := by decide
  rw [Nat.le_div_iff_mul_le (Nat.mul_pos sharp positive)]
  calc counts.decimals * ((sharpness - 1) * steps.decimal)
      = (sharpness - 1) * (counts.decimals * steps.decimal) := by ring
    _ ≤ sharpness * (counts.binaries * steps.binary) := (apart_bounds near).1
    _ ≤ sharpness * (2 ^ 25 * steps.binary) :=
        Nat.mul_le_mul_left _ (Nat.mul_le_mul_right _ binariesLt.le)
    _ = Nat.pow 2 76 * steps.binary := by
        rw [← Nat.mul_assoc]
        rfl

/-- No significand that comes near to an end does harm. -/
theorem isHarmless_of_isNear {exponent : Int} {place : Nat} (low : -53 ≤ exponent)
    (high : exponent ≤ 38) (placeLt : place < 254) {counts : Counts}
    (near : counts.IsNear (steps exponent place)) (short : counts.decimals ≤ 10 ^ 8)
    (binariesLt : counts.binaries < 2 ^ 25) (leading : place = 0 ∨ 2 ^ 24 < counts.binaries) :
    IsHarmless exponent place counts := by
  have decimalPos : 0 < (steps exponent place).decimal := gridNumerator_pos _ _
  have binaryPos : 0 < (steps exponent place).binary :=
    Nat.mul_pos (gridDenominator_pos exponent) (Nat.two_pow_pos place)
  have clear := isClear_of_le low high placeLt
  have bound := le_most near decimalPos short binariesLt
  simp only [isClear, Bool.or_eq_true, Bool.and_eq_true, bne_iff_ne, decide_eq_true_eq] at clear
  rcases clear with ⟨placePos, tooLarge⟩ | scanned
  · have above := leading.resolve_left placePos
    have upper := (apart_bounds near).2.trans
      (Nat.mul_le_mul_left (sharpness + 1) (Nat.mul_le_mul_right _ bound))
    have lower : Nat.pow 2 75 * (steps exponent place).binary ≤
        sharpness * (counts.binaries * (steps exponent place).binary) := by
      calc Nat.pow 2 75 * (steps exponent place).binary
          = sharpness * (2 ^ 24 * (steps exponent place).binary) := by
            rw [← Nat.mul_assoc]
            rfl
        _ ≤ sharpness * (counts.binaries * (steps exponent place).binary) :=
            Nat.mul_le_mul_left _ (Nat.mul_le_mul_right _ above.le)
    omega
  · exact of_decide_eq_true (test_of_scan binaryPos scanned near bound)

end PointRecords.Json
