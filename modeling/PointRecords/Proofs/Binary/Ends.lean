import PointRecords.Proofs.Binary.Rounds

/-!
# The ends of spans

Between a number that rounds to a magnitude and one that does not, there is an
end of its span.  The ends are half way between neighbours: odd multiples of a
power of two, one binary digit longer than the magnitudes, and not near any of
them.
-/

namespace PointRecords.Binary.Format

open Decimal

variable {format : Format}

/-- Half way between a magnitude and the next, in half units. -/
def ending (format : Format) (magnitude : Nat) : Nat :=
  format.units magnitude + format.units (magnitude + 1)

/-- The magnitudes at whose upper ends the span of a magnitude has its ends. -/
def EndsAt (magnitude below : Nat) : Prop :=
  below = magnitude ∨ below + 1 = magnitude

theorem exists_ending_between {first second : ℚ} {magnitude : Nat} (positive : 0 < magnitude)
    (rounds : format.RoundsTo first magnitude) (elsewhere : ¬ format.RoundsTo second magnitude) :
    ∃ below, EndsAt magnitude below ∧
      |first * format.halvesInOne - format.ending below| ≤
        |first * format.halvesInOne - second * format.halvesInOne| := by
  have low : (format.span magnitude).low = format.ending (magnitude - 1) := by
    rw [ending, Nat.sub_add_cancel positive]
    rfl
  have high : (format.span magnitude).high = format.ending magnitude := rfl
  have lowLe := rounds.low_le
  have leHigh := rounds.le_high
  unfold RoundsTo at elsewhere
  rw [low] at lowLe
  rw [high] at leHigh
  set firstHalves := first * format.halvesInOne
  set secondHalves := second * format.halvesInOne
  rcases le_or_gt secondHalves (format.ending (magnitude - 1)) with below | above
  · refine ⟨magnitude - 1, Or.inr (Nat.sub_add_cancel positive), ?_⟩
    rw [abs_of_nonneg (by linarith), abs_of_nonneg (by linarith)]
    linarith
  · rcases le_or_gt (format.ending magnitude : ℚ) secondHalves with beyond | within
    · refine ⟨magnitude, Or.inl rfl, ?_⟩
      rw [abs_of_nonpos (by linarith), abs_of_nonpos (by linarith)]
      linarith
    · refine absurd (Span.covers_of_lt ?_ ?_) elsewhere
      · rwa [low]
      · rwa [high]

/-- An end is an odd multiple of a power of two, with a leading one unless the
power is one. -/
theorem ending_eq (format : Format) (magnitude : Nat) :
    ∃ coefficient, format.ending magnitude =
        coefficient * 2 ^ (magnitude / format.fractions - 1) ∧
      coefficient % 2 = 1 ∧ coefficient < 4 * format.fractions ∧
      (magnitude / format.fractions - 1 = 0 ∨ 2 * format.fractions < coefficient) := by
  have bound := Nat.mod_lt magnitude format.fractions_pos
  have gapEq : format.gap magnitude = 2 ^ (magnitude / format.fractions - 1) := rfl
  rw [ending, units_succ, units_eq, gapEq]
  split
  · rename_i small
    refine ⟨2 * (magnitude % format.fractions) + 1, ?_, by omega, by omega, Or.inl (by omega)⟩
    rw [small, Nat.zero_sub, pow_zero]
    ring
  · refine ⟨2 * (format.fractions + magnitude % format.fractions) + 1, by ring, by omega, by omega,
      Or.inr (by omega)⟩

/-- The power of two in an end of a finite magnitude. -/
theorem place_lt {magnitude : Nat} (finite : magnitude < format.infinity) :
    magnitude / format.fractions - 1 < format.exponents - 2 ∨ format.exponents ≤ 2 := by
  have below : magnitude / format.fractions < format.exponents - 1 :=
    (Nat.div_lt_iff_lt_mul format.fractions_pos).mpr finite
  omega

/-- The ends of a span are at least the gap below the magnitude away from it. -/
theorem gap_le_abs_ending_sub (format : Format) {magnitude below : Nat} (positive : 0 < magnitude)
    (endsAt : EndsAt magnitude below) :
    (format.gap (magnitude - 1) : ℚ) ≤
      |(format.span magnitude).middle - (format.ending below : ℚ)| := by
  have step := format.units_succ (magnitude - 1)
  rw [Nat.sub_add_cancel positive] at step
  have next := format.units_succ magnitude
  have wider : format.gap (magnitude - 1) ≤ format.gap magnitude :=
    format.gap_mono (Nat.sub_le _ _)
  have widerRat : (format.gap (magnitude - 1) : ℚ) ≤ format.gap magnitude := by exact_mod_cast wider
  rcases endsAt with rfl | rfl
  · refine le_trans ?_ (neg_le_abs _)
    simp only [span, ending, next]
    push_cast
    linarith
  · refine le_trans ?_ (le_abs_self _)
    rw [Nat.add_sub_cancel] at step ⊢
    simp only [span, ending, step]
    push_cast
    linarith

/-- A magnitude is at most twice the number of fractions, and one, times the gap
below it. -/
theorem middle_le_gap (format : Format) {magnitude : Nat} (positive : 0 < magnitude) :
    ((format.span magnitude).middle : ℚ) ≤
      2 * (2 * format.fractions + 1) * format.gap (magnitude - 1) := by
  have step := format.units_succ (magnitude - 1)
  rw [Nat.sub_add_cancel positive] at step
  have below := format.units_lt_gap (magnitude - 1)
  have middle : (format.span magnitude).middle ≤
      2 * (2 * format.fractions + 1) * format.gap (magnitude - 1) := by
    change 2 * format.units magnitude ≤ _
    rw [step]
    nlinarith
  exact_mod_cast middle

end PointRecords.Binary.Format
