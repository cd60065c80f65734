import PointRecords.Proofs.Binary.Nearest

/-!
# Decimal grids

The decimals with a given exponent form a grid.  On each grid the shortest
decimal is looked for among the two points around the magnitude only; this file
shows that one of them lies in the span if any point of the grid does, and finds
the grid on which a given number of digits ends.
-/

namespace PointRecords

open Decimal Binary

namespace Decimal

/-- The number that a decimal denotes. -/
def Scientific.real (decimal : Scientific) : ℚ :=
  decimal.coefficient * 10 ^ decimal.exponent

/-- A power of ten as the quotient of two whole ones. -/
theorem pow_div_pow_toNat (exponent : Int) :
    ((10 ^ exponent.toNat : Nat) : ℚ) / (10 ^ (-exponent).toNat : Nat) = 10 ^ exponent := by
  rcases le_total 0 exponent with nonneg | nonpos
  · obtain ⟨places, rfl⟩ := Int.eq_ofNat_of_zero_le nonneg
    simp
  · obtain ⟨places, equal⟩ := Int.eq_ofNat_of_zero_le (Int.neg_nonneg_of_nonpos nonpos)
    obtain rfl : exponent = -(places : Int) := by omega
    simp [zpow_neg]

theorem exists_digitCount_eq_succ {number : Nat} (positive : 0 < number) :
    ∃ count, digitCount number = count + 1 ∧ 10 ^ count ≤ number ∧ number < 10 ^ (count + 1) := by
  have nonzero : digitCount number ≠ 0 := by
    intro zero
    have less : number < 10 ^ 0 := (digitCount_le_iff number 0).mp zero.le
    rw [pow_zero] at less
    omega
  obtain ⟨count, countEq⟩ := Nat.exists_eq_succ_of_ne_zero nonzero
  refine ⟨count, countEq, ?_, (digitCount_le_iff number (count + 1)).mp countEq.le⟩
  by_contra less
  have := (digitCount_le_iff number count).mpr (not_le.mp less)
  omega

/-- The first digit of a quotient stands at the power of ten below it. -/
theorem leadingExponent_spec {numerator denominator : Nat} (numeratorPos : 0 < numerator)
    (denominatorPos : 0 < denominator) :
    let leading := leadingExponent numerator denominator
    (10 : ℚ) ^ leading ≤ (numerator : ℚ) / denominator ∧
      (numerator : ℚ) / denominator < 10 ^ (leading + 1) := by
  have denominatorRat : (0 : ℚ) < denominator := by exact_mod_cast denominatorPos
  simp only [leadingExponent]
  split
  · rename_i atLeastOne
    have quotientPos : 0 < numerator / denominator := Nat.div_pos atLeastOne denominatorPos
    obtain ⟨count, countEq, above, below⟩ := exists_digitCount_eq_succ quotientPos
    rw [countEq]
    have exponent : ((count + 1 : Nat) : Int) - 1 = count := by omega
    rw [exponent]
    constructor
    · rw [zpow_natCast, le_div_iff₀ denominatorRat]
      exact_mod_cast (Nat.le_div_iff_mul_le denominatorPos).mp above
    · rw [← Nat.cast_succ, zpow_natCast, div_lt_iff₀ denominatorRat]
      exact_mod_cast (Nat.div_lt_iff_lt_mul denominatorPos).mp below
  · rename_i belowOne
    have numeratorRat : (0 : ℚ) < numerator := by exact_mod_cast numeratorPos
    set quotient := (denominator - 1) / numerator with quotientDef
    have quotientPos : 0 < quotient := Nat.div_pos (by omega) numeratorPos
    obtain ⟨count, countEq, above, below⟩ := exists_digitCount_eq_succ quotientPos
    have belowProduct := (Nat.div_lt_iff_lt_mul numeratorPos).mp below
    have aboveProduct := (Nat.le_div_iff_mul_le numeratorPos).mp above
    rw [countEq]
    constructor
    · rw [zpow_neg, zpow_natCast, inv_le_comm₀ (by positivity) (by positivity), inv_div,
        div_le_iff₀ numeratorRat]
      have : denominator ≤ 10 ^ (count + 1) * numerator := by
        change denominator - 1 < 10 ^ (count + 1) * numerator at belowProduct
        omega
      exact_mod_cast this
    · have exponent : -((count + 1 : Nat) : Int) + 1 = -(count : Int) := by omega
      rw [exponent, zpow_neg, zpow_natCast, lt_inv_comm₀ (by positivity) (by positivity), inv_div,
        lt_div_iff₀ numeratorRat]
      have : 10 ^ count * numerator < denominator := by omega
      exact_mod_cast this

namespace Span

/-- The multiple of a grid at or below the middle of a span. -/
def below (span : Span) (numerator denominator : Nat) : Nat :=
  span.middle * denominator / numerator

theorem below_spec (span : Span) {numerator denominator : Nat} (numeratorPos : 0 < numerator)
    (denominatorPos : 0 < denominator) :
    (span.below numerator denominator : ℚ) * (numerator / denominator) ≤ span.middle ∧
      (span.middle : ℚ) < (span.below numerator denominator + 1) * (numerator / denominator) := by
  have denominatorRat : (0 : ℚ) < denominator := by exact_mod_cast denominatorPos
  have low : span.below numerator denominator * numerator ≤ span.middle * denominator :=
    Nat.div_mul_le_self _ _
  have high : span.middle * denominator < (span.below numerator denominator + 1) * numerator := by
    rw [Nat.succ_mul]
    exact Nat.lt_div_mul_add numeratorPos
  rw [← mul_div_assoc, ← mul_div_assoc, div_le_iff₀ denominatorRat, lt_div_iff₀ denominatorRat]
  exact ⟨by exact_mod_cast low, by exact_mod_cast high⟩

/-- A multiple that is found lies in the span, and it is one of the two around
the middle. -/
theorem nearestMultiple?_some {span : Span} {tie : Tie} {numerator denominator multiple : Nat}
    (denominatorPos : 0 < denominator)
    (found : span.nearestMultiple? tie numerator denominator = some multiple) :
    span.Covers (multiple * (numerator / denominator)) ∧
      (multiple = span.below numerator denominator ∨
        multiple = span.below numerator denominator + 1) := by
  have covers : ∀ candidate : Nat, span.contains (candidate * numerator) denominator = true →
      span.Covers (candidate * (numerator / denominator)) := by
    intro candidate contained
    have := (span.contains_iff denominatorPos).mp contained
    rwa [Nat.cast_mul, mul_div_assoc] at this
  simp only [nearestMultiple?] at found
  split at found
  · rename_i belowIn aboveIn
    split at found
    · cases found
      exact ⟨covers _ belowIn, Or.inl rfl⟩
    · split at found
      · cases found
        exact ⟨covers _ aboveIn, Or.inr rfl⟩
      · split at found
        · cases found
          exact ⟨covers _ aboveIn, Or.inr rfl⟩
        · split at found
          · cases found
            exact ⟨covers _ belowIn, Or.inl rfl⟩
          · cases found
            exact ⟨covers _ aboveIn, Or.inr rfl⟩
  · rename_i belowIn _
    cases found
    exact ⟨covers _ belowIn, Or.inl rfl⟩
  · rename_i _ aboveIn
    cases found
    exact ⟨covers _ aboveIn, Or.inr rfl⟩
  · cases found

/-- If no multiple is found, none lies in the span: whichever side of the middle it were
on, the candidate on that side would lie between it and the middle. -/
theorem nearestMultiple?_none {span : Span} {tie : Tie} {numerator denominator : Nat}
    (numeratorPos : 0 < numerator) (denominatorPos : 0 < denominator)
    (middleIn : span.Covers span.middle)
    (notFound : span.nearestMultiple? tie numerator denominator = none) (multiple : Nat) :
    ¬ span.Covers (multiple * (numerator / denominator)) := by
  intro covers
  have gridPos : (0 : ℚ) < numerator / denominator := by positivity
  obtain ⟨low, high⟩ := span.below_spec numeratorPos denominatorPos
  have candidateIn :
      span.contains (span.below numerator denominator * numerator) denominator = true ∨
        span.contains ((span.below numerator denominator + 1) * numerator) denominator = true := by
    rw [span.contains_iff denominatorPos, span.contains_iff denominatorPos, Nat.cast_mul,
      Nat.cast_mul, mul_div_assoc, mul_div_assoc]
    rcases Nat.lt_or_ge (span.below numerator denominator) multiple with larger | smaller
    · right
      refine middleIn.convex covers (by exact_mod_cast high.le) ?_
      exact mul_le_mul_of_nonneg_right (by exact_mod_cast larger) gridPos.le
    · left
      refine covers.convex middleIn ?_ low
      exact mul_le_mul_of_nonneg_right (by exact_mod_cast smaller) gridPos.le
  simp only [nearestMultiple?] at notFound
  split at notFound
  · split at notFound
    · cases notFound
    · split at notFound
      · cases notFound
      · split at notFound
        · cases notFound
        · split at notFound <;> cases notFound
  · cases notFound
  · cases notFound
  · rename_i belowOut aboveOut
    rcases candidateIn with inside | inside
    · exact Bool.false_ne_true (belowOut.symm.trans inside)
    · exact Bool.false_ne_true (aboveOut.symm.trans inside)

end Span

end Decimal

end PointRecords
