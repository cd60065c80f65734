import Mathlib.Algebra.Order.Field.Basic
import Mathlib.Data.Rat.Cast.Order
import Mathlib.Order.Monotone.Basic
import Mathlib.Tactic
import PointRecords.Binary.Pattern

/-!
# The scale of magnitudes

Consecutive magnitudes are consecutive reals of a format.  This file measures
the gap between them, which is a power of two, and compares it with the
magnitudes themselves.  Everything that is said of rounding rests on these
comparisons.
-/

namespace PointRecords.Binary.Format

variable (format : Format)

/-- The distance from a magnitude to the next one, in units. -/
def gap (magnitude : Nat) : Nat := 2 ^ (magnitude / format.fractions - 1)

theorem gap_pos (magnitude : Nat) : 0 < format.gap magnitude :=
  Nat.two_pow_pos _

theorem gap_mono {first second : Nat} (le : first ≤ second) :
    format.gap first ≤ format.gap second :=
  Nat.pow_le_pow_right (by decide) (Nat.sub_le_sub_right (Nat.div_le_div_right le) 1)

theorem units_eq (magnitude : Nat) :
    format.units magnitude =
      if magnitude / format.fractions = 0 then magnitude % format.fractions
      else (format.fractions + magnitude % format.fractions) * format.gap magnitude :=
  rfl

theorem units_succ (magnitude : Nat) :
    format.units (magnitude + 1) = format.units magnitude + format.gap magnitude := by
  have positive := format.fractions_pos
  have split := Nat.div_add_mod magnitude format.fractions
  have bound := Nat.mod_lt magnitude positive
  simp only [units_eq, gap]
  generalize format.fractions = fractions at *
  generalize magnitude / fractions = exponent at *
  generalize magnitude % fractions = fraction at *
  subst split
  by_cases carry : fraction + 1 = fractions
  · have next : fractions * exponent + fraction + 1 = fractions * (exponent + 1) := by
      rw [Nat.mul_succ]
      omega
    rw [next, Nat.mul_div_cancel_left _ positive, Nat.mul_mod_right]
    cases exponent with
    | zero => simpa using carry.symm
    | succ exponent =>
        simp only [Nat.add_one_ne_zero, if_false, Nat.add_sub_cancel, Nat.pow_succ]
        rw [← Nat.succ_mul, Nat.succ_eq_add_one, Nat.add_assoc, carry]
        ring
  · have inside : fraction + 1 < fractions := by omega
    have quotient : (fractions * exponent + fraction + 1) / fractions = exponent := by
      rw [Nat.add_assoc, Nat.mul_add_div positive, Nat.div_eq_of_lt inside, Nat.add_zero]
    have remainder : (fractions * exponent + fraction + 1) % fractions = fraction + 1 := by
      rw [Nat.add_assoc, Nat.mul_add_mod, Nat.mod_eq_of_lt inside]
    rw [quotient, remainder]
    cases exponent with
    | zero => simp
    | succ exponent =>
        simp only [Nat.add_one_ne_zero, if_false]
        ring

@[simp]
theorem units_zero : format.units 0 = 0 := by
  simp [units_eq]

theorem units_strictMono : StrictMono format.units :=
  strictMono_nat_of_lt_succ fun magnitude => by
    rw [units_succ]
    exact Nat.lt_add_of_pos_right (format.gap_pos magnitude)

theorem units_pos {magnitude : Nat} (positive : 0 < magnitude) :
    0 < format.units magnitude := by
  simpa using format.units_strictMono positive

/-- A magnitude is less than `2 * fractions` gaps. -/
theorem units_lt_gap (magnitude : Nat) :
    format.units magnitude < 2 * format.fractions * format.gap magnitude := by
  have bound := Nat.mod_lt magnitude format.fractions_pos
  have positive := format.gap_pos magnitude
  rw [units_eq]
  split
  · nlinarith
  · exact (Nat.mul_lt_mul_right positive).mpr (by omega)

theorem units_of_le {magnitude : Nat} (small : magnitude ≤ 2 * format.fractions) :
    format.units magnitude = magnitude := by
  have positive := format.fractions_pos
  induction magnitude with
  | zero => simp
  | succ magnitude ih =>
      have exponent : magnitude / format.fractions - 1 = 0 := by
        have below : magnitude / format.fractions < 2 :=
          (Nat.div_lt_iff_lt_mul positive).mpr (by omega)
        omega
      rw [units_succ, ih (by omega), gap, exponent, Nat.pow_zero]

/-- A significand with a leading one, or the power of two above it, moved up by
some binary places. -/
theorem units_shift {shift significand : Nat} (low : format.fractions ≤ significand)
    (high : significand ≤ 2 * format.fractions) :
    format.units (shift * format.fractions + significand) = significand * 2 ^ shift := by
  have positive := format.fractions_pos
  obtain ⟨fraction, rfl⟩ := Nat.exists_eq_add_of_le low
  rw [Nat.two_mul, Nat.add_le_add_iff_left] at high
  rcases Nat.lt_or_eq_of_le high with inside | carry
  · have quotient :
        (shift * format.fractions + (format.fractions + fraction)) / format.fractions =
          shift + 1 := by
      rw [← Nat.add_assoc, ← Nat.succ_mul, Nat.mul_comm, Nat.mul_add_div positive,
        Nat.div_eq_of_lt inside, Nat.add_zero]
    have remainder :
        (shift * format.fractions + (format.fractions + fraction)) % format.fractions =
          fraction := by
      rw [← Nat.add_assoc, ← Nat.succ_mul, Nat.mul_comm, Nat.mul_add_mod,
        Nat.mod_eq_of_lt inside]
    rw [units_eq, gap, quotient, remainder, if_neg (Nat.succ_ne_zero shift), Nat.add_sub_cancel]
  · have whole : shift * format.fractions + (format.fractions + fraction) =
        format.fractions * (shift + 2) := by
      rw [carry]
      ring
    rw [whole, units_eq, gap, Nat.mul_div_cancel_left _ positive, Nat.mul_mod_right, if_neg (by omega),
      carry]
    rw [show shift + 2 - 1 = shift + 1 by omega, pow_succ]
    ring

end PointRecords.Binary.Format
