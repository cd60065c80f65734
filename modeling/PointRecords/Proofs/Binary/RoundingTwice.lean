import PointRecords.Proofs.Binary.Conversion
import PointRecords.Proofs.Binary.Ends

/-!
# Rounding twice

A number that is rounded to a wide format and then to a narrow one need not go where it
goes at once.  The two results differ exactly if the first rounding moves the number to
the point half way between two neighbours of the narrow format, from the side of the odd
one: from there the second rounding leads to the even one.
-/

namespace PointRecords.Binary.Format

open Decimal

variable {format : Format} {number : ℚ} {magnitude : Nat}

/-! ## Points half way -/

/-- The point half way between a magnitude and the next. -/
def midpoint (format : Format) (below : Nat) : ℚ :=
  format.ending below / format.halvesInOne

theorem midpoint_mul_halvesInOne (format : Format) (below : Nat) :
    format.midpoint below * format.halvesInOne = format.ending below :=
  div_mul_cancel₀ _ format.cast_halvesInOne_pos.ne'

theorem midpoint_eq (format : Format) (below : Nat) :
    format.midpoint below = (format.real below + format.real (below + 1)) / 2 := by
  have halvesPos := format.cast_halvesInOne_pos.ne'
  apply mul_right_cancel₀ halvesPos
  rw [midpoint_mul_halvesInOne, div_mul_eq_mul_div, real_add_mul_halvesInOne, ending,
    mul_div_cancel_left₀ _ two_ne_zero]

theorem midpoint_strictMono (format : Format) : StrictMono format.midpoint := by
  intro first second less
  have halvesPos := format.cast_halvesInOne_pos
  apply div_lt_div_of_pos_right _ halvesPos
  exact_mod_cast format.ending_strictMono less

theorem RoundsTo.le_midpoint (rounds : format.RoundsTo number magnitude) :
    number ≤ format.midpoint magnitude := by
  have halvesPos := format.cast_halvesInOne_pos
  exact (le_div_iff₀ halvesPos).mpr rounds.le_high

theorem RoundsTo.midpoint_le (rounds : format.RoundsTo number magnitude) {below : Nat}
    (less : below < magnitude) : format.midpoint below ≤ number := by
  have halvesPos := format.cast_halvesInOne_pos
  have low : (format.span magnitude).low = format.ending (magnitude - 1) := by
    rw [ending, Nat.sub_add_cancel (by omega)]
    rfl
  have lowLe := rounds.low_le
  rw [low] at lowLe
  calc format.midpoint below ≤ format.midpoint (magnitude - 1) :=
        format.midpoint_strictMono.monotone (by omega)
    _ ≤ number := (div_le_iff₀ halvesPos).mpr lowLe

theorem roundsTo_midpoint_of_even (even : magnitude % 2 = 0) :
    format.RoundsTo (format.midpoint magnitude) magnitude := by
  have middle := format.covers_middle magnitude
  rw [RoundsTo, midpoint_mul_halvesInOne, Span.Covers, if_pos (by simpa [span] using even)]
  exact ⟨middle.low_le.trans middle.le_high, le_rfl⟩

theorem roundsTo_midpoint_of_odd (odd : magnitude % 2 = 1) :
    format.RoundsTo (format.midpoint magnitude) (magnitude + 1) := by
  have middle := format.covers_middle (magnitude + 1)
  have even : (magnitude + 1) % 2 = 0 := by omega
  rw [RoundsTo, midpoint_mul_halvesInOne, Span.Covers, if_pos (by simpa [span] using even)]
  exact ⟨le_rfl, middle.low_le.trans middle.le_high⟩

/-- Half way between two neighbours a number rounds to the even one. -/
theorem RoundsTo.of_midpoint {below : Nat}
    (rounds : format.RoundsTo (format.midpoint below) magnitude) :
    magnitude = if below % 2 = 0 then below else below + 1 := by
  split
  · exact rounds.unique (roundsTo_midpoint_of_even (by assumption))
  · exact rounds.unique (roundsTo_midpoint_of_odd (by omega))

/-! ## Two roundings -/

/-- A number is moved to the point half way between two neighbours, from the side of the
odd one. -/
def MovesToTie (format : Format) (number moved : ℚ) : Prop :=
  ∃ below < format.infinity, moved = (format.real below + format.real (below + 1)) / 2 ∧
    (below % 2 = 0 ∧ moved < number ∨ below % 2 = 1 ∧ number < moved)

/-- Numbers with no point half way between them, apart from the second one itself, round
apart only where the second one is a tie: it lies on a point between the two results that
the first one has not crossed. -/
theorem movesToTie_iff {moved : ℚ} {first second : Nat} (firstFinite : first < format.infinity)
    (secondFinite : second < format.infinity) (rounds : format.RoundsTo number first)
    (movedRounds : format.RoundsTo moved second)
    (above : ∀ below < format.infinity, number ≤ format.midpoint below →
      moved ≤ format.midpoint below)
    (beneath : ∀ below < format.infinity, format.midpoint below ≤ number →
      format.midpoint below ≤ moved) :
    format.MovesToTie number moved ↔ second ≠ first := by
  constructor
  · rintro ⟨below, finite, atTie, side⟩ rfl
    rw [← midpoint_eq] at atTie
    subst atTie
    have same := movedRounds.of_midpoint
    rcases side with ⟨even, less⟩ | ⟨odd, less⟩
    · rw [if_pos even] at same
      exact absurd (same ▸ rounds.le_midpoint) (not_le.mpr less)
    · rw [if_neg (by omega)] at same
      exact absurd (rounds.midpoint_le (by omega)) (not_le.mpr less)
  · intro different
    have elsewhere : number ≠ moved := by
      rintro rfl
      exact different (movedRounds.unique rounds)
    rcases different.lt_or_gt with less | greater
    · have atTie : moved = format.midpoint second :=
        le_antisymm movedRounds.le_midpoint (beneath second secondFinite (rounds.midpoint_le less))
      have parity := (atTie ▸ movedRounds).of_midpoint
      have le : moved ≤ number := atTie.trans_le (rounds.midpoint_le less)
      refine ⟨second, secondFinite, atTie.trans (midpoint_eq _ _), Or.inl ⟨?_, ?_⟩⟩
      · by_contra odd
        rw [if_neg odd] at parity
        omega
      · exact lt_of_le_of_ne le elsewhere.symm
    · have atTie : moved = format.midpoint first :=
        le_antisymm (above first firstFinite rounds.le_midpoint) (movedRounds.midpoint_le greater)
      have parity := (atTie ▸ movedRounds).of_midpoint
      have le : number ≤ moved := rounds.le_midpoint.trans_eq atTie.symm
      refine ⟨first, firstFinite, atTie.trans (midpoint_eq _ _), Or.inr ⟨?_, ?_⟩⟩
      · by_contra even
        rw [if_pos (by omega)] at parity
        omega
      · exact lt_of_le_of_ne le elsewhere

section Wide

variable {narrow wide : Format} {numerator denominator : Nat}

/-- A wide format rounds no number across a point half way between two neighbours of the
narrow one, since it holds that point itself and rounding is monotone. -/
theorem IsWider.sides_of_midpoint (wider : IsWider narrow wide)
    (hasFraction : 0 < wide.fractionBits) (numerator : Nat) (positive : 0 < denominator)
    (below : Nat) (finite : below < narrow.infinity) :
    ((numerator : ℚ) / denominator ≤ narrow.midpoint below →
        wide.real (wide.nearest numerator denominator) ≤ narrow.midpoint below) ∧
      (narrow.midpoint below ≤ (numerator : ℚ) / denominator →
        narrow.midpoint below ≤ wide.real (wide.nearest numerator denominator)) := by
  have kept := (real_nearest_of_isShort narrow.halvesInOne_pos (wider.isShort_ending finite)).2
  change _ = narrow.midpoint below at kept
  rw [← kept]
  constructor
  · intro le
    apply wide.real_strictMono.monotone
    exact nearest_mono hasFraction positive narrow.halvesInOne_pos (le.trans_eq kept)
  · intro le
    apply wide.real_strictMono.monotone
    exact nearest_mono hasFraction narrow.halvesInOne_pos positive (kept.symm.trans_le le)

/-- Rounding to a wide format first makes a difference exactly where it moves the number
to a tie of the narrow one. -/
theorem convert_nearest_ne_iff (wider : IsWider narrow wide)
    (hasFraction : 0 < narrow.fractionBits) (wideHasFraction : 0 < wide.fractionBits)
    (positive : 0 < denominator) (finite : narrow.nearest numerator denominator < narrow.infinity)
    (wideFinite : wide.nearest numerator denominator < wide.infinity)
    (twiceFinite : wide.convert narrow (wide.nearest numerator denominator) < narrow.infinity) :
    wide.convert narrow (wide.nearest numerator denominator) ≠
        narrow.nearest numerator denominator ↔
      narrow.MovesToTie ((numerator : ℚ) / denominator)
        (wide.real (wide.nearest numerator denominator)) := by
  have rounds := (nearest_eq_iff_roundsTo hasFraction positive finite).mp rfl
  have twice : wide.convert narrow (wide.nearest numerator denominator) = narrow.nearest _ _ :=
    convert_of_finite wideFinite
  rw [twice] at twiceFinite ⊢
  have movedRounds := (nearest_eq_iff_roundsTo hasFraction wide.unitsInOne_pos twiceFinite).mp rfl
  have sides := wider.sides_of_midpoint wideHasFraction numerator positive
  exact (movesToTie_iff finite twiceFinite rounds movedRounds
    (fun below finite => (sides below finite).1)
    (fun below finite => (sides below finite).2)).symm

end Wide

end PointRecords.Binary.Format
