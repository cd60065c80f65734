import Mathlib.Data.Nat.Dist
import Mathlib.Tactic

/-!
# Near misses of two grids

Multiples of a decimal step and multiples of a binary step can come very near
each other without meeting.  All pairs that do so, up to a given size, are found
among the small combinations of two neighbouring approximations of the ratio of
the steps: any pair is a whole combination of the two, and a pair that is near
takes few of either.

How the approximations are found does not matter; it is checked that they are
neighbours.
-/

namespace PointRecords.NearMiss

/-- Two steps on a common scale. -/
structure Steps where
  decimal : Nat
  binary : Nat

/-- A multiple of either step. -/
structure Counts where
  decimals : Nat
  binaries : Nat

/-- How far the two multiples are from each other. -/
def Counts.apart (counts : Counts) (steps : Steps) : Nat :=
  Nat.dist (counts.decimals * steps.decimal) (counts.binaries * steps.binary)

/-- Less than one part in so many counts as near. -/
def sharpness : Nat := Nat.pow 2 51

/-- The multiples are near each other, and not equal. -/
def Counts.IsNear (counts : Counts) (steps : Steps) : Prop :=
  sharpness * counts.apart steps ≤ counts.decimals * steps.decimal ∧ 0 < counts.apart steps

instance (counts : Counts) (steps : Steps) : Decidable (counts.IsNear steps) :=
  inferInstanceAs (Decidable (_ ∧ _))

/-! ## Combinations -/

/-- The determinant of two pairs of counts. -/
def determinant (first second : Counts) : Int :=
  first.decimals * second.binaries - first.binaries * second.decimals

/-- Two pairs of counts of which all others are combinations. -/
structure Basis where
  older : Counts
  newer : Counts

namespace Basis

/-- The determinant of the pairs is one or its negative. -/
def IsUnimodular (basis : Basis) : Prop :=
  (determinant basis.older basis.newer).natAbs = 1

instance (basis : Basis) : Decidable basis.IsUnimodular :=
  inferInstanceAs (Decidable (_ = _))

/-- So many of the older pair and so many of the newer one. -/
def sum (basis : Basis) (olders newers : Nat) : Counts :=
  ⟨olders * basis.older.decimals + newers * basis.newer.decimals,
    olders * basis.older.binaries + newers * basis.newer.binaries⟩

/-- So many of one pair without so many of the other. -/
def difference (basis : Basis) (olders newers : Nat) : Counts :=
  ⟨Nat.dist (olders * basis.older.decimals) (newers * basis.newer.decimals),
    Nat.dist (olders * basis.older.binaries) (newers * basis.newer.binaries)⟩

end Basis

theorem dist_cast (first second : Nat) :
    (Nat.dist first second : Int) = |(first : Int) - second| := by
  rcases Nat.le_total first second with below | above
  · rw [Nat.dist_eq_sub_of_le below, abs_of_nonpos (by omega), Nat.cast_sub below]
    ring
  · rw [Nat.dist_eq_sub_of_le_right above, abs_of_nonneg (by omega), Nat.cast_sub above]

/-- Up to its sign, the difference of two multiples is a sum or a difference of
multiples by natural numbers, according to the signs alone. -/
theorem abs_sub_mul (first second : Int) :
    (∀ left right : Nat, |first * left - second * right| =
        (first.natAbs * left + second.natAbs * right : Nat)) ∨
      ∀ left right : Nat, |first * left - second * right| =
        (Nat.dist (first.natAbs * left) (second.natAbs * right) : Nat) := by
  obtain ⟨firstAbs, rfl | rfl⟩ := Int.eq_nat_or_neg first
  · obtain ⟨secondAbs, rfl | rfl⟩ := Int.eq_nat_or_neg second
    · right
      intro left right
      rw [dist_cast]
      simp
    · left
      intro left right
      rw [neg_mul, sub_neg_eq_add, abs_of_nonneg (by positivity)]
      simp
  · obtain ⟨secondAbs, rfl | rfl⟩ := Int.eq_nat_or_neg second
    · left
      intro left right
      rw [neg_mul, ← neg_add', abs_neg, abs_of_nonneg (by positivity)]
      simp
    · right
      intro left right
      rw [dist_cast, neg_mul, neg_mul, neg_sub_neg, abs_sub_comm]
      simp

/-- Every pair is a combination of a basis, and takes of each of the two as many as
its determinant with the other tells.  The counts are such differences up to the
determinant of the basis, which is a unit. -/
theorem exists_combination {basis : Basis} (unimodular : basis.IsUnimodular) (counts : Counts) :
    counts = basis.sum (determinant counts basis.newer).natAbs
        (determinant counts basis.older).natAbs ∨
      counts = basis.difference (determinant counts basis.newer).natAbs
        (determinant counts basis.older).natAbs := by
  obtain ⟨decimals, binaries⟩ := counts
  set olders := determinant ⟨decimals, binaries⟩ basis.newer with oldersDef
  set newers := determinant ⟨decimals, binaries⟩ basis.older with newersDef
  have absEq : |determinant basis.older basis.newer| = 1 := by
    rw [Int.abs_eq_natAbs, unimodular]
    rfl
  have decimalsEq : (decimals : Int) =
      |olders * basis.older.decimals - newers * basis.newer.decimals| := by
    have product : olders * basis.older.decimals - newers * basis.newer.decimals =
        decimals * determinant basis.older basis.newer := by
      simp only [oldersDef, newersDef, determinant]
      ring
    rw [product, abs_mul, absEq, mul_one, Nat.abs_cast]
  have binariesEq : (binaries : Int) =
      |olders * basis.older.binaries - newers * basis.newer.binaries| := by
    have product : olders * basis.older.binaries - newers * basis.newer.binaries =
        binaries * determinant basis.older basis.newer := by
      simp only [oldersDef, newersDef, determinant]
      ring
    rw [product, abs_mul, absEq, mul_one, Nat.abs_cast]
  rcases abs_sub_mul olders newers with isSum | isDifference
  · rw [isSum] at decimalsEq binariesEq
    rw [Basis.sum, ← Nat.cast_inj.mp decimalsEq, ← Nat.cast_inj.mp binariesEq]
    exact Or.inl rfl
  · rw [isDifference] at decimalsEq binariesEq
    rw [Basis.difference, ← Nat.cast_inj.mp decimalsEq, ← Nat.cast_inj.mp binariesEq]
    exact Or.inr rfl

/-- A determinant is small if both pairs are near. -/
theorem natAbs_determinant_mul_le (steps : Steps) (counts other : Counts) :
    (determinant counts other).natAbs * steps.binary ≤
      counts.decimals * other.apart steps + other.decimals * counts.apart steps := by
  zify
  rw [determinant, Counts.apart, Counts.apart, dist_cast, dist_cast]
  push_cast
  have binaryNonneg : (0 : Int) ≤ steps.binary := Int.natCast_nonneg _
  have countsNonneg : (0 : Int) ≤ counts.decimals := Int.natCast_nonneg _
  have otherNonneg : (0 : Int) ≤ other.decimals := Int.natCast_nonneg _
  calc |(counts.decimals * other.binaries - counts.binaries * other.decimals : Int)| * steps.binary
      = |(other.decimals * (counts.decimals * steps.decimal - counts.binaries * steps.binary) -
          counts.decimals * (other.decimals * steps.decimal - other.binaries * steps.binary) : Int)| := by
        rw [← abs_of_nonneg binaryNonneg, ← abs_mul, abs_of_nonneg binaryNonneg]
        congr 1
        ring
    _ ≤ |(other.decimals * (counts.decimals * steps.decimal - counts.binaries * steps.binary) : Int)| +
        |(counts.decimals * (other.decimals * steps.decimal - other.binaries * steps.binary) : Int)| :=
        abs_sub _ _
    _ = _ := by
        rw [abs_mul, abs_mul, abs_of_nonneg countsNonneg, abs_of_nonneg otherNonneg, add_comm]

/-- At most so many of one pair of a basis go into a pair that is near, if the other
pair of the basis is `other`. -/
def reach (steps : Steps) (most : Nat) (other : Counts) : Nat :=
  (sharpness * most * other.apart steps + other.decimals * (most * steps.decimal)) /
    (sharpness * steps.binary)

theorem natAbs_determinant_le_reach {steps : Steps} (positive : 0 < steps.binary) {most : Nat}
    {counts : Counts} (near : counts.IsNear steps) (bound : counts.decimals ≤ most)
    (other : Counts) : (determinant counts other).natAbs ≤ reach steps most other := by
  have sharp : 0 < sharpness := Nat.two_pow_pos 51
  rw [reach, Nat.le_div_iff_mul_le (Nat.mul_pos sharp positive)]
  have nearBound : sharpness * counts.apart steps ≤ most * steps.decimal :=
    near.1.trans (Nat.mul_le_mul_right _ bound)
  calc (determinant counts other).natAbs * (sharpness * steps.binary)
      = sharpness * ((determinant counts other).natAbs * steps.binary) := by ring
    _ ≤ sharpness * (counts.decimals * other.apart steps + other.decimals * counts.apart steps) :=
        Nat.mul_le_mul_left _ (natAbs_determinant_mul_le steps counts other)
    _ = sharpness * counts.decimals * other.apart steps +
          other.decimals * (sharpness * counts.apart steps) := by ring
    _ ≤ sharpness * most * other.apart steps + other.decimals * (most * steps.decimal) :=
        Nat.add_le_add (Nat.mul_le_mul_right _ (Nat.mul_le_mul_left _ bound))
          (Nat.mul_le_mul_left _ nearBound)

/-! ## The search -/

/-- Euclid's algorithm on the steps, with the approximations of their ratio, up to one
with so many decimal steps. -/
def approach (limit : Nat) : Nat → Nat → Nat → Basis → Basis
  | 0, _, _, basis => basis
  | fuel + 1, older, newer, basis =>
      if newer = 0 ∨ limit ≤ basis.newer.decimals then basis
      else
        approach limit fuel newer (older % newer)
          ⟨basis.newer, ⟨basis.older.decimals + older / newer * basis.newer.decimals,
            basis.older.binaries + older / newer * basis.newer.binaries⟩⟩

/-- The approximations with which the search is done. -/
def neighbours (steps : Steps) (most : Nat) : Basis :=
  approach (min most (Nat.pow 2 25)) 60 steps.decimal steps.binary ⟨⟨1, 0⟩, ⟨0, 1⟩⟩

/-- Every pair with at most so many decimal steps that is near passes the test.  If the
steps have a large common divisor, no pair is near. -/
def scan (test : Counts → Bool) (steps : Steps) (most : Nat) : Bool :=
  let basis := neighbours steps most
  let passes := fun counts : Counts => !decide (counts.IsNear steps) || test counts
  decide (most * steps.decimal < sharpness * Nat.gcd steps.decimal steps.binary) ||
    decide basis.IsUnimodular &&
      (List.range (reach steps most basis.newer + 1)).all fun olders =>
        (List.range (reach steps most basis.older + 1)).all fun newers =>
          passes (basis.sum olders newers) && passes (basis.difference olders newers)

theorem gcd_le_apart {steps : Steps} {counts : Counts} (near : counts.IsNear steps) :
    Nat.gcd steps.decimal steps.binary ≤ counts.apart steps := by
  have decimal : Nat.gcd steps.decimal steps.binary ∣ counts.decimals * steps.decimal :=
    (Nat.gcd_dvd_left _ _).mul_left _
  have binary : Nat.gcd steps.decimal steps.binary ∣ counts.binaries * steps.binary :=
    (Nat.gcd_dvd_right _ _).mul_left _
  exact Nat.le_of_dvd near.2 (dvd_add (Nat.dvd_sub decimal binary) (Nat.dvd_sub binary decimal))

theorem test_of_scan {test : Counts → Bool} {steps : Steps} (positive : 0 < steps.binary)
    {most : Nat} (scanned : scan test steps most = true) {counts : Counts}
    (near : counts.IsNear steps) (bound : counts.decimals ≤ most) : test counts = true := by
  simp only [scan, Bool.or_eq_true, Bool.and_eq_true, decide_eq_true_eq, List.all_eq_true,
    List.mem_range, Bool.not_eq_true', decide_eq_false_iff_not] at scanned
  rcases scanned with coarse | ⟨unimodular, passes⟩
  · have apart := Nat.mul_le_mul_left sharpness (gcd_le_apart near)
    have most := near.1.trans (Nat.mul_le_mul_right steps.decimal bound)
    omega
  · obtain ⟨sum, difference⟩ := passes _
      (Nat.lt_succ_of_le (natAbs_determinant_le_reach positive near bound _)) _
      (Nat.lt_succ_of_le (natAbs_determinant_le_reach positive near bound _))
    rcases exists_combination unimodular counts with isSum | isDifference
    · rw [← isSum] at sum
      exact sum.resolve_left (not_not.mpr near)
    · rw [← isDifference] at difference
      exact difference.resolve_left (not_not.mpr near)

end PointRecords.NearMiss
