import PointRecords.Proofs.Decimal.Significant

/-!
# Digits in their places

A decimal that is written in its places has a whole part and a fraction.  Zeros
fill the places between the digits and the point; they do not change the value,
and there is no other zero at the end of the fraction.
-/

namespace PointRecords.Decimal

/-- The digits before the point, the first of them at `leading`. -/
def wholePart (leading : Int) (digitList : List Nat) : List Nat :=
  if leading < 0 then [0]
  else
    digitList.take (leading.toNat + 1) ++
      List.replicate (leading.toNat + 1 - digitList.length) 0

def fractionPart (leading : Int) (digitList : List Nat) : List Nat :=
  if leading < 0 then List.replicate (-leading - 1).toNat 0 ++ digitList
  else digitList.drop (leading.toNat + 1)

/-- A fraction behind its point.  An empty one is left out or shown as a zero. -/
def pointed (keepsPoint : Bool) (fraction : List Nat) : List Char :=
  if fraction = [] then if keepsPoint then ['.', '0'] else []
  else '.' :: fraction.map digitChar

theorem digitChar_zero : digitChar 0 = '0' :=
  rfl

theorem positional_eq (keepsPoint : Bool) (leading : Int) {digitList : List Nat}
    (nonempty : digitList ≠ []) :
    positional keepsPoint leading digitList =
      (wholePart leading digitList).map digitChar ++
        pointed keepsPoint (fractionPart leading digitList) := by
  simp only [positional, wholePart, fractionPart, pointed, List.length_map]
  split
  · simp [nonempty, digitChar_zero]
  · split
    · rename_i fits
      simp [List.take_of_length_le fits, List.drop_of_length_le fits, digitChar_zero]
    · rename_i longer
      have zeros : leading.toNat + 1 - digitList.length = 0 := by omega
      have rest : digitList.drop (leading.toNat + 1) ≠ [] := by
        simpa using longer
      simp [zeros, rest, List.map_take, List.map_drop]

/-- The parts together are the digits between zeros, as many of them as the places
tell. -/
theorem parts_eq (leading : Int) (digitList : List Nat) :
    ∃ before after, wholePart leading digitList ++ fractionPart leading digitList =
        List.replicate before 0 ++ digitList ++ List.replicate after 0 ∧
      leading + 1 - digitList.length = after - (fractionPart leading digitList).length := by
  unfold wholePart fractionPart
  by_cases negative : leading < 0
  · refine ⟨(-leading - 1).toNat + 1, 0, ?_, ?_⟩
    · simp [negative, List.replicate_succ]
    · simp only [negative, if_true, List.length_append, List.length_replicate]
      push_cast
      omega
  · rcases Nat.le_total digitList.length (leading.toNat + 1) with fits | longer
    · refine ⟨0, leading.toNat + 1 - digitList.length, ?_, ?_⟩
      · simp [negative, List.take_of_length_le fits, List.drop_of_length_le fits]
      · simp only [negative, if_false, List.drop_of_length_le fits, List.length_nil]
        omega
    · refine ⟨0, 0, ?_, ?_⟩
      · simp [negative, Nat.sub_eq_zero_of_le longer]
      · simp only [negative, if_false, List.length_drop]
        omega

theorem value_parts (leading : Int) (digitList : List Nat) :
    (value (wholePart leading digitList ++ fractionPart leading digitList) : ℚ) *
        10 ^ (-((fractionPart leading digitList).length : Int)) =
      value digitList * 10 ^ (leading + 1 - digitList.length) := by
  obtain ⟨before, after, split, placeEq⟩ := parts_eq leading digitList
  rw [placeEq, split, value_append, value_append, value_replicate_zero, value_replicate_zero,
    List.length_replicate, sub_eq_add_neg, zpow_add₀ (by norm_num), zpow_natCast]
  push_cast
  ring

theorem stripZeros_parts (leading : Int) (digitList : List Nat) :
    stripZeros (wholePart leading digitList ++ fractionPart leading digitList) =
      stripZeros digitList := by
  obtain ⟨before, after, split, -⟩ := parts_eq leading digitList
  rw [split, stripZeros_append_zeros, stripZeros_zeros_append]

theorem areDigits_parts (leading : Int) {digitList : List Nat} (areDigits : AreDigits digitList) :
    AreDigits (wholePart leading digitList) ∧ AreDigits (fractionPart leading digitList) := by
  obtain ⟨before, after, split, -⟩ := parts_eq leading digitList
  rw [← areDigits_append, split]
  simp [areDigits]

theorem wholePart_ne_nil (leading : Int) {digitList : List Nat} (nonempty : digitList ≠ []) :
    wholePart leading digitList ≠ [] := by
  unfold wholePart
  split
  · simp
  · simp [nonempty]

/-- Without the filling zeros the fraction ends where the digits end. -/
theorem dropTrailing_fractionPart (leading : Int) {digitList : List Nat}
    (nonempty : digitList ≠ []) (trailing : dropTrailing digitList = digitList) :
    dropTrailing (fractionPart leading digitList) = fractionPart leading digitList := by
  obtain ⟨earlier, last, rfl⟩ := List.eq_nil_or_concat' digitList |>.resolve_left nonempty
  have nonzero := ne_zero_of_dropTrailing trailing
  unfold fractionPart
  split
  · rw [← List.append_assoc]
    exact dropTrailing_of_last nonzero
  · rcases Nat.lt_or_ge earlier.length (leading.toNat + 1) with beyond | inside
    · rw [List.drop_of_length_le (by simpa using beyond)]
      rfl
    · rw [List.drop_append_of_le_length inside]
      exact dropTrailing_of_last nonzero

/-- The first digit of the whole part is a zero only if it is the only one. -/
theorem noLeadingZero_wholePart (decimal : Scientific) :
    NoLeadingZero (wholePart decimal.leading decimal.significant) := by
  intro digit more split
  by_cases isZero : decimal.coefficient = 0
  · have leading : decimal.leading = 0 := by simp [Scientific.leading, isZero]
    have significant : decimal.significant = [0] := by simp [Scientific.significant, isZero]
    rw [leading, significant] at split
    cases split
    exact Or.inr rfl
  · unfold wholePart at split
    split at split
    · cases split
      exact Or.inr rfl
    · cases significant : decimal.significant with
      | nil => exact absurd significant decimal.significant_ne_nil
      | cons first others =>
          have nonzero := (decimal.significant_leading significant).resolve_right isZero
          rw [significant, List.take_succ_cons, List.cons_append, List.cons.injEq] at split
          exact Or.inl (split.1 ▸ nonzero)

end PointRecords.Decimal
