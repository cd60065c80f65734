import PointRecords.Proofs.Binary.Rounds
import PointRecords.Proofs.Decimal.Grid

/-!
# Shortest decimals

The search for the shortest decimal of a magnitude tries the lengths in turn.
It always ends, since a grid that is finer than half the span has a point in it;
what it finds rounds to the magnitude; and no decimal of fewer digits does, on
whatever grid it stands.
-/

namespace PointRecords

open Decimal Binary

namespace Binary.Format

variable {format : Format}

def leading (format : Format) (magnitude : Nat) : Int :=
  leadingExponent (format.span magnitude).middle format.halvesInOne

theorem leading_spec (format : Format) {magnitude : Nat} (positive : 0 < magnitude) :
    (10 : ℚ) ^ format.leading magnitude ≤ format.real magnitude ∧
      format.real magnitude < 10 ^ (format.leading magnitude + 1) := by
  have middlePos : 0 < (format.span magnitude).middle :=
    Nat.mul_pos (by decide) (format.units_pos positive)
  have halvesRat := format.cast_halvesInOne_pos.ne'
  have spec := leadingExponent_spec middlePos format.halvesInOne_pos
  have quotient : ((format.span magnitude).middle : ℚ) / format.halvesInOne =
      format.real magnitude := by
    rw [← real_mul_halvesInOne, mul_div_cancel_right₀ _ halvesRat]
  rw [quotient] at spec
  exact spec

/-- The exponent of the grid on which the decimals of a magnitude have a given
number of digits. -/
def gridExponent (format : Format) (magnitude length : Nat) : Int :=
  format.leading magnitude + 1 - length

/-- The first digit stands `length - 1` places above the grid. -/
theorem pow_mul_gridExponent (format : Format) (magnitude : Nat) {length : Nat}
    (positive : 0 < length) :
    (10 : ℚ) ^ (length - 1) * 10 ^ format.gridExponent magnitude length =
      10 ^ format.leading magnitude := by
  rw [← zpow_natCast, ← zpow_add₀ (by norm_num)]
  congr 1
  rw [gridExponent]
  omega

theorem pow_length_mul_gridExponent (format : Format) (magnitude length : Nat) :
    (10 : ℚ) ^ length * 10 ^ format.gridExponent magnitude length =
      10 ^ (format.leading magnitude + 1) := by
  rw [← zpow_natCast, ← zpow_add₀ (by norm_num)]
  congr 1
  rw [gridExponent]
  omega

/-- The step of a grid in half units is a quotient of these two. -/
def gridNumerator (format : Format) (exponent : Int) : Nat :=
  10 ^ exponent.toNat * format.halvesInOne

@[inherit_doc gridNumerator]
def gridDenominator (exponent : Int) : Nat := 10 ^ (-exponent).toNat

theorem gridNumerator_pos (format : Format) (exponent : Int) : 0 < format.gridNumerator exponent :=
  Nat.mul_pos (Nat.pow_pos (by decide)) format.halvesInOne_pos

theorem gridDenominator_pos (exponent : Int) : 0 < gridDenominator exponent :=
  Nat.pow_pos (by decide)

theorem grid_eq (format : Format) (exponent : Int) :
    (format.gridNumerator exponent : ℚ) / gridDenominator exponent =
      10 ^ exponent * format.halvesInOne := by
  rw [← pow_div_pow_toNat exponent, gridNumerator, gridDenominator]
  push_cast
  ring

theorem decimalOfLength?_eq (tie : Tie) (magnitude length : Nat) :
    format.decimalOfLength? tie magnitude length =
      ((format.span magnitude).nearestMultiple? tie
        (format.gridNumerator (format.gridExponent magnitude length))
        (gridDenominator (format.gridExponent magnitude length))).map
          (⟨·, format.gridExponent magnitude length⟩) :=
  rfl

def pointBelow (format : Format) (magnitude : Nat) (exponent : Int) : Nat :=
  (format.span magnitude).below (format.gridNumerator exponent) (gridDenominator exponent)

theorem pointBelow_spec (format : Format) (magnitude : Nat) (exponent : Int) :
    (format.pointBelow magnitude exponent : ℚ) * 10 ^ exponent ≤ format.real magnitude ∧
      format.real magnitude < (format.pointBelow magnitude exponent + 1) * 10 ^ exponent := by
  have halvesPos := format.cast_halvesInOne_pos
  have spec := (format.span magnitude).below_spec (format.gridNumerator_pos exponent)
    (gridDenominator_pos exponent)
  rw [grid_eq, ← real_mul_halvesInOne, ← mul_assoc, ← mul_assoc] at spec
  exact ⟨le_of_mul_le_mul_right spec.1 halvesPos, lt_of_mul_lt_mul_right spec.2 halvesPos.le⟩

/-- What is known of a decimal that was found on the grid of a length. -/
structure Found (format : Format) (magnitude length : Nat) (decimal : Scientific) : Prop where
  exponent_eq : decimal.exponent = format.gridExponent magnitude length
  roundsTo : format.RoundsTo decimal.real magnitude
  near : |decimal.real - format.real magnitude| ≤ 10 ^ decimal.exponent
  coefficient_ge : 10 ^ (length - 1) ≤ decimal.coefficient
  coefficient_le : decimal.coefficient ≤ 10 ^ length

theorem found_of_decimalOfLength? {tie : Tie} {magnitude length : Nat} {decimal : Scientific}
    (positive : 0 < magnitude) (lengthPos : 0 < length)
    (found : format.decimalOfLength? tie magnitude length = some decimal) :
    format.Found magnitude length decimal := by
  rw [decimalOfLength?_eq, Option.map_eq_some_iff] at found
  obtain ⟨coefficient, foundMultiple, rfl⟩ := found
  obtain ⟨covers, candidate⟩ := Span.nearestMultiple?_some (gridDenominator_pos _) foundMultiple
  rw [grid_eq, ← mul_assoc] at covers
  obtain ⟨lower, upper⟩ := format.leading_spec positive
  rw [← format.pow_mul_gridExponent magnitude lengthPos] at lower
  rw [← format.pow_length_mul_gridExponent magnitude length] at upper
  obtain ⟨belowLe, ltBelow⟩ :=
    format.pointBelow_spec magnitude (format.gridExponent magnitude length)
  set exponent := format.gridExponent magnitude length
  set below := format.pointBelow magnitude exponent
  have around : coefficient = below ∨ coefficient = below + 1 := candidate
  have stepPos : (0 : ℚ) < 10 ^ exponent := by positivity
  have belowGe : 10 ^ (length - 1) ≤ below := by
    have : (10 : ℚ) ^ (length - 1) < below + 1 :=
      lt_of_mul_lt_mul_right (lower.trans_lt ltBelow) stepPos.le
    exact Nat.lt_succ_iff.mp (by exact_mod_cast this)
  have belowLt : below < 10 ^ length := by
    have : (below : ℚ) < 10 ^ length := lt_of_mul_lt_mul_right (belowLe.trans_lt upper) stepPos.le
    exact_mod_cast this
  refine ⟨rfl, covers, ?_, ?_, ?_⟩
  · rw [abs_le, Scientific.real]
    rcases around with equal | equal
    · simp only [equal]
      constructor <;> linarith
    · simp only [equal]
      push_cast
      constructor <;> linarith
  · rcases around with equal | equal <;> simp only [equal] <;> omega
  · rcases around with equal | equal <;> simp only [equal] <;> omega

/-- If none was found on the grid of a length, none of its points rounds to the
magnitude. -/
theorem not_roundsTo_of_decimalOfLength? {tie : Tie} {magnitude length : Nat}
    (notFound : format.decimalOfLength? tie magnitude length = none) (coefficient : Nat) :
    ¬ format.RoundsTo (coefficient * 10 ^ format.gridExponent magnitude length) magnitude := by
  rw [decimalOfLength?_eq, Option.map_eq_none_iff] at notFound
  have none := Span.nearestMultiple?_none (format.gridNumerator_pos _) (gridDenominator_pos _)
    (format.covers_middle magnitude) notFound coefficient
  rwa [grid_eq, ← mul_assoc] at none

/-- Fewer digits do not do: if the grid of a length has no point that rounds to a
magnitude, then no decimal of at most that many digits does.  Such a decimal is itself a
point of the grid, or it stands below the first digit of the magnitude, and then the
power of ten at that digit lies between the two. -/
theorem not_roundsTo_of_lt {tie : Tie} {magnitude length : Nat} (positive : 0 < magnitude)
    (notFound : format.decimalOfLength? tie magnitude length = none) {coefficient : Nat}
    (coefficientPos : 0 < coefficient) (short : coefficient < 10 ^ length) (exponent : Int) :
    ¬ format.RoundsTo (coefficient * 10 ^ exponent) magnitude := by
  intro rounds
  have notOnGrid := not_roundsTo_of_decimalOfLength? notFound
  obtain ⟨leadingLe, -⟩ := format.leading_spec positive
  have lengthPos : 0 < length := by
    rcases Nat.eq_zero_or_pos length with zero | lengthPos
    · rw [zero, pow_zero] at short
      omega
    · exact lengthPos
  rcases le_or_gt (format.gridExponent magnitude length) exponent with onGrid | finer
  · obtain ⟨places, placesEq⟩ := Int.eq_ofNat_of_zero_le (sub_nonneg.mpr onGrid)
    apply notOnGrid (coefficient * 10 ^ places)
    have : (coefficient : ℚ) * 10 ^ exponent =
        ((coefficient * 10 ^ places : Nat) : ℚ) * 10 ^ format.gridExponent magnitude length := by
      push_cast
      rw [mul_assoc, ← zpow_natCast, ← zpow_add₀ (by norm_num)]
      congr 2
      omega
    rwa [← this]
  · apply notOnGrid (10 ^ (length - 1))
    rw [Nat.cast_pow, Nat.cast_ofNat, format.pow_mul_gridExponent magnitude lengthPos]
    refine rounds.convex (format.roundsTo_real magnitude) ?_ leadingLe
    calc (coefficient : ℚ) * 10 ^ exponent ≤ 10 ^ length * 10 ^ exponent := by
          refine mul_le_mul_of_nonneg_right ?_ (by positivity)
          exact_mod_cast short.le
      _ = 10 ^ (length + exponent) := by rw [zpow_add₀ (by norm_num), zpow_natCast]
      _ ≤ 10 ^ format.leading magnitude := by
          refine zpow_le_zpow_right₀ (by norm_num) ?_
          rw [gridExponent] at finer
          omega

/-- The distance from a magnitude to the upper end of its span. -/
theorem high_sub_middle (format : Format) (magnitude : Nat) :
    ((format.span magnitude).high : ℚ) - (format.span magnitude).middle = format.gap magnitude := by
  simp only [span, units_succ]
  push_cast
  ring

/-- The grid of a length is finer than half the span once ten to the power of one
less is four times the number of fractions. -/
theorem step_lt_gap {magnitude length : Nat} (positive : 0 < magnitude)
    (enough : 4 * format.fractions ≤ 10 ^ (length - 1)) (lengthPos : 0 < length) :
    (10 : ℚ) ^ format.gridExponent magnitude length * format.halvesInOne <
      format.gap magnitude := by
  obtain ⟨leadingLe, -⟩ := format.leading_spec positive
  rw [← format.pow_mul_gridExponent magnitude lengthPos] at leadingLe
  set step : ℚ := 10 ^ format.gridExponent magnitude length
  have small : (format.units magnitude : ℚ) < 2 * format.fractions * format.gap magnitude := by
    exact_mod_cast format.units_lt_gap magnitude
  have middle : format.real magnitude * format.halvesInOne = 2 * format.units magnitude := by
    rw [real_mul_halvesInOne, span]
    push_cast
    rfl
  have enoughRat : (4 * format.fractions : ℚ) ≤ 10 ^ (length - 1) := by exact_mod_cast enough
  have halvesPos := format.cast_halvesInOne_pos
  have fractionsPos : (0 : ℚ) < format.fractions := by exact_mod_cast format.fractions_pos
  have product : step * format.halvesInOne * (4 * format.fractions) <
      format.gap magnitude * (4 * format.fractions) := by
    calc step * format.halvesInOne * (4 * format.fractions)
        ≤ step * format.halvesInOne * 10 ^ (length - 1) :=
          mul_le_mul_of_nonneg_left enoughRat (by positivity)
      _ = 10 ^ (length - 1) * step * format.halvesInOne := by ring
      _ ≤ format.real magnitude * format.halvesInOne :=
          mul_le_mul_of_nonneg_right leadingLe halvesPos.le
      _ < format.gap magnitude * (4 * format.fractions) := by
          rw [middle]
          linarith
  exact lt_of_mul_lt_mul_right product (by positivity)

/-- Such a grid has a point in the span: the point above the magnitude is less than
one step away from it. -/
theorem decimalOfLength?_ne_none {tie : Tie} {magnitude length : Nat} (positive : 0 < magnitude)
    (enough : 4 * format.fractions ≤ 10 ^ (length - 1)) (lengthPos : 0 < length) :
    format.decimalOfLength? tie magnitude length ≠ none := by
  intro notFound
  have step := step_lt_gap positive enough lengthPos
  obtain ⟨belowLe, ltBelow⟩ :=
    format.pointBelow_spec magnitude (format.gridExponent magnitude length)
  have notOnGrid := not_roundsTo_of_decimalOfLength? notFound
  set exponent := format.gridExponent magnitude length
  set below := format.pointBelow magnitude exponent
  have halvesPos := format.cast_halvesInOne_pos
  apply notOnGrid (below + 1)
  have middleIn := format.covers_middle magnitude
  have high := format.high_sub_middle magnitude
  have middle := format.real_mul_halvesInOne magnitude
  have above : (format.span magnitude).middle <
      (((below + 1 : Nat) : ℚ) * 10 ^ exponent) * format.halvesInOne := by
    rw [← middle]
    push_cast
    exact mul_lt_mul_of_pos_right ltBelow halvesPos
  have beneath : (((below + 1 : Nat) : ℚ) * 10 ^ exponent) * format.halvesInOne <
      (format.span magnitude).high := by
    have : (below : ℚ) * 10 ^ exponent * format.halvesInOne ≤ (format.span magnitude).middle := by
      rw [← middle]
      exact mul_le_mul_of_nonneg_right belowLe halvesPos.le
    push_cast
    linarith
  exact Span.covers_of_lt (middleIn.low_le.trans_lt above) beneath

/-- The search through a range stops at the first place where something is
found. -/
theorem findSome?_range {α : Type} {search : Nat → Option α} {limit : Nat} {result : α} :
    (List.range limit).findSome? search = some result ↔
      ∃ place < limit, search place = some result ∧ ∀ earlier < place, search earlier = none := by
  induction limit with
  | zero => simp
  | succ limit ih =>
      rw [List.range_succ, List.findSome?_append, Option.or_eq_some_iff, ih,
        List.findSome?_eq_none_iff]
      constructor
      · rintro (⟨place, below, found, first⟩ | ⟨none, found⟩)
        · exact ⟨place, Nat.lt_succ_of_lt below, found, first⟩
        · exact ⟨limit, Nat.lt_succ_self limit, by simpa using found,
            fun earlier less => none earlier (List.mem_range.mpr less)⟩
      · rintro ⟨place, below, found, first⟩
        rcases Nat.lt_succ_iff_lt_or_eq.mp below with less | rfl
        · exact Or.inl ⟨place, less, found, first⟩
        · exact Or.inr ⟨fun earlier less => first earlier (List.mem_range.mp less), by simpa using found⟩

/-- So many digits tell all magnitudes apart, and the search goes that far. -/
structure Suffices (format : Format) (enough : Nat) : Prop where
  positive : 0 < enough
  fine : 4 * format.fractions ≤ 10 ^ (enough - 1)
  reached : enough ≤ format.fractionBits + 2

theorem suffices_single : Suffices .single 9 :=
  ⟨by decide, by decide, by decide⟩

/-- The shortest decimal of a magnitude is found on the first grid that has a
point in its span. -/
theorem shortest_spec (tie : Tie) {magnitude enough : Nat} (positive : 0 < magnitude)
    (enoughDigits : format.Suffices enough) :
    ∃ length, 0 < length ∧ length ≤ enough ∧
      format.decimalOfLength? tie magnitude length = some (format.shortest tie magnitude) ∧
      ∀ shorter, 0 < shorter → shorter < length →
        format.decimalOfLength? tie magnitude shorter = none := by
  obtain ⟨enoughPos, enoughDigits, reached⟩ := enoughDigits
  have exists_ : ∃ digit, format.decimalOfLength? tie magnitude (digit + 1) ≠ none :=
    ⟨enough - 1, by
      rw [Nat.sub_add_cancel enoughPos]
      exact decimalOfLength?_ne_none positive enoughDigits enoughPos⟩
  classical
  have foundHere := Nat.find_spec exists_
  obtain ⟨decimal, decimalEq⟩ := Option.ne_none_iff_exists'.mp foundHere
  have first : ∀ earlier < Nat.find exists_,
      format.decimalOfLength? tie magnitude (earlier + 1) = none :=
    fun earlier less => not_not.mp (Nat.find_min exists_ less)
  have bound : Nat.find exists_ ≤ enough - 1 := by
    refine Nat.find_min' exists_ ?_
    rw [Nat.sub_add_cancel enoughPos]
    exact decimalOfLength?_ne_none positive enoughDigits enoughPos
  refine ⟨Nat.find exists_ + 1, by omega, by omega, ?_, ?_⟩
  · have searched : (List.range (format.fractionBits + 2)).findSome?
        (fun digit => format.decimalOfLength? tie magnitude (digit + 1)) = some decimal :=
      findSome?_range.mpr ⟨Nat.find exists_, by omega, decimalEq, first⟩
    rw [decimalEq, shortest, if_neg positive.ne', searched, Option.getD_some]
  · intro shorter shorterPos less
    have := first (shorter - 1) (by omega)
    rwa [Nat.sub_add_cancel shorterPos] at this

end Binary.Format

end PointRecords
