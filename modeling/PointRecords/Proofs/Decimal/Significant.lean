import PointRecords.Decimal.Layout
import PointRecords.Proofs.Decimal.Grid
import PointRecords.Proofs.Decimal.Digits

/-!
# Significant digits

The digits of a decimal without the zeros at either end.  Taking the zeros off
changes the value by a power of ten only, and what is written for a decimal are
its significant digits, the first of them at the place `leading`.
-/

namespace PointRecords.Decimal

/-- The digits without the zeros at the end. -/
def dropTrailing (digitList : List Nat) : List Nat :=
  digitList.rdropWhile (· == 0)

/-- The digits without the zeros at either end. -/
def stripZeros (digitList : List Nat) : List Nat :=
  dropTrailing (digitList.dropWhile (· == 0))

theorem exists_dropTrailing (digitList : List Nat) :
    ∃ count, digitList = dropTrailing digitList ++ List.replicate count 0 := by
  refine ⟨(digitList.rtakeWhile (· == 0)).length, ?_⟩
  have zeros : digitList.rtakeWhile (· == 0) =
      List.replicate (digitList.rtakeWhile (· == 0)).length 0 :=
    List.eq_replicate_of_mem fun digit member => by
      simpa using List.mem_rtakeWhile_imp member
  rw [← zeros, dropTrailing, List.rdropWhile_append_rtakeWhile]

theorem exists_dropLeading (digitList : List Nat) :
    ∃ count, digitList = List.replicate count 0 ++ digitList.dropWhile (· == 0) := by
  induction digitList with
  | nil => exact ⟨0, rfl⟩
  | cons digit digitList ih =>
      by_cases isZero : digit = 0
      · obtain ⟨count, split⟩ := ih
        refine ⟨count + 1, ?_⟩
        simp only [isZero, List.replicate_succ, List.cons_append, List.dropWhile_cons, beq_self_eq_true, if_true]
        rw [← split]
      · exact ⟨0, by simp [isZero]⟩

@[simp]
theorem dropTrailing_append_zeros (digitList : List Nat) (count : Nat) :
    dropTrailing (digitList ++ List.replicate count 0) = dropTrailing digitList := by
  induction count with
  | zero => simp
  | succ count ih =>
      rw [List.replicate_succ', ← List.append_assoc, dropTrailing,
        List.rdropWhile_concat_pos _ _ _ (by simp)]
      exact ih

@[simp]
theorem dropTrailing_idem (digitList : List Nat) :
    dropTrailing (dropTrailing digitList) = dropTrailing digitList :=
  List.rdropWhile_idempotent _ _

theorem dropTrailing_of_last {digitList : List Nat} {digit : Nat} (nonzero : digit ≠ 0) :
    dropTrailing (digitList ++ [digit]) = digitList ++ [digit] :=
  List.rdropWhile_concat_neg _ _ _ (by simpa using nonzero)

theorem ne_zero_of_dropTrailing {digitList : List Nat} {digit : Nat}
    (trailing : dropTrailing (digitList ++ [digit]) = digitList ++ [digit]) : digit ≠ 0 := by
  rintro rfl
  have length := congrArg List.length trailing
  rw [← List.replicate_one, dropTrailing_append_zeros] at length
  have shorter := (List.rdropWhile_prefix (· == 0) digitList).length_le
  rw [dropTrailing, List.length_append, List.length_replicate] at length
  omega

theorem stripZeros_zeros_append (count : Nat) (digitList : List Nat) :
    stripZeros (List.replicate count 0 ++ digitList) = stripZeros digitList := by
  induction count with
  | zero => simp
  | succ count ih =>
      rw [List.replicate_succ, List.cons_append]
      exact ih

@[simp]
theorem stripZeros_append_zeros (digitList : List Nat) (count : Nat) :
    stripZeros (digitList ++ List.replicate count 0) = stripZeros digitList := by
  rw [stripZeros, stripZeros, List.dropWhile_append]
  split
  · rename_i allZero
    rw [List.isEmpty_iff] at allZero
    have zeros : (List.replicate count 0).dropWhile (· == 0) = ([] : List Nat) := by
      simp
    rw [zeros, allZero]
  · rw [dropTrailing_append_zeros]

/-- A list of digits is worth its stripped digits, moved by some places. -/
theorem value_eq_stripZeros (digitList : List Nat) :
    ∃ places, value digitList = value (stripZeros digitList) * 10 ^ places := by
  obtain ⟨leading, leadingSplit⟩ := exists_dropLeading digitList
  obtain ⟨trailing, trailingSplit⟩ := exists_dropTrailing (digitList.dropWhile (· == 0))
  refine ⟨trailing, ?_⟩
  change value digitList = value (dropTrailing (digitList.dropWhile (· == 0))) * 10 ^ trailing
  conv_lhs => rw [leadingSplit, value_append, value_replicate_zero, Nat.zero_mul, Nat.zero_add]
  conv_lhs => rw [trailingSplit, value_append, value_replicate_zero, List.length_replicate,
    Nat.add_zero]

theorem AreDigits.stripZeros {digitList : List Nat} (areDigits : AreDigits digitList) :
    AreDigits (stripZeros digitList) :=
  areDigits.sublist
    ((List.rdropWhile_prefix _ _).sublist.trans (List.dropWhile_sublist _))

theorem digits_pow (places : Nat) : digits (10 ^ places) = 1 :: List.replicate places 0 := by
  induction places with
  | zero => simp [digits_of_pos]
  | succ places ih =>
      rw [digits_of_pos (by positivity), pow_succ, Nat.mul_div_cancel _ (by decide), ih,
        Nat.mul_mod_left, List.cons_append, ← List.replicate_succ']

namespace Scientific

/-- What is written for a decimal other than zero: digits that neither begin nor
end with a zero. -/
theorem significant_spec {decimal : Scientific} (nonzero : decimal.coefficient ≠ 0) :
    ∃ places, digits decimal.coefficient =
        decimal.significant ++ List.replicate places 0 ∧
      decimal.coefficient = value decimal.significant * 10 ^ places ∧
      decimal.leading + 1 - decimal.significant.length = decimal.exponent + places := by
  have significantEq : decimal.significant = dropTrailing (digits decimal.coefficient) := by
    rw [significant, if_neg nonzero]
    rfl
  obtain ⟨places, split⟩ := exists_dropTrailing (digits decimal.coefficient)
  rw [← significantEq] at split
  refine ⟨places, split, ?_, ?_⟩
  · have value := value_digits decimal.coefficient
    rw [split, value_append, value_replicate_zero, List.length_replicate, Nat.add_zero] at value
    exact value.symm
  · have count := congrArg List.length split
    rw [List.length_append, List.length_replicate] at count
    rw [leading, if_neg nonzero, digitCount, count]
    push_cast
    ring

theorem areDigits_significant (decimal : Scientific) : AreDigits decimal.significant := by
  unfold significant
  split
  · simp
  · exact (areDigits_digits _).sublist (List.rdropWhile_prefix _ _).sublist

theorem significant_ne_nil (decimal : Scientific) : decimal.significant ≠ [] := by
  by_cases isZero : decimal.coefficient = 0
  · simp [significant, isZero]
  · obtain ⟨places, -, valueEq, -⟩ := significant_spec isZero
    intro empty
    rw [empty, value_nil, Nat.zero_mul] at valueEq
    exact isZero valueEq

/-- The significant digits in their places make up the decimal. -/
theorem value_significant (decimal : Scientific) :
    (value decimal.significant : ℚ) * 10 ^ (decimal.leading + 1 - decimal.significant.length) =
      decimal.real := by
  by_cases isZero : decimal.coefficient = 0
  · simp [significant, real, isZero]
  · obtain ⟨places, -, valueEq, placeEq⟩ := significant_spec isZero
    rw [placeEq, real, valueEq, zpow_add₀ (by norm_num), zpow_natCast]
    push_cast
    ring

/-- No zero stands before the significant digits, zero itself apart. -/
theorem significant_leading (decimal : Scientific) {digit : Nat} {more : List Nat}
    (split : decimal.significant = digit :: more) : digit ≠ 0 ∨ decimal.coefficient = 0 := by
  by_cases isZero : decimal.coefficient = 0
  · exact Or.inr isZero
  · obtain ⟨places, digitsEq, -, -⟩ := significant_spec isZero
    rw [split, List.cons_append] at digitsEq
    exact Or.inl (ne_zero_of_digits digitsEq)

theorem dropTrailing_significant {decimal : Scientific} (nonzero : decimal.coefficient ≠ 0) :
    dropTrailing decimal.significant = decimal.significant := by
  rw [significant, if_neg nonzero]
  exact dropTrailing_idem _

/-- What is written for a decimal other than zero is no multiple of ten. -/
theorem value_significant_mod_ten {decimal : Scientific} (nonzero : decimal.coefficient ≠ 0) :
    value decimal.significant % 10 ≠ 0 := by
  obtain ⟨earlier, last, split⟩ :=
    (List.eq_nil_or_concat' decimal.significant).resolve_left decimal.significant_ne_nil
  have trailing := dropTrailing_significant nonzero
  have areDigits := areDigits_significant decimal
  rw [split] at trailing areDigits ⊢
  have small : last < 10 := areDigits last (by simp)
  have lastNonzero := ne_zero_of_dropTrailing trailing
  rw [value_append_singleton]
  omega

theorem stripZeros_significant {decimal : Scientific} (nonzero : decimal.coefficient ≠ 0) :
    stripZeros decimal.significant = decimal.significant := by
  have leading : decimal.significant.dropWhile (· == 0) = decimal.significant := by
    cases split : decimal.significant with
    | nil => rfl
    | cons digit more =>
        have := (significant_leading decimal split).resolve_right nonzero
        simp [this]
  rw [stripZeros, leading, dropTrailing_significant nonzero]

/-- A coefficient of so many digits, or the power of ten above them, is written
with no more digits. -/
theorem length_significant_le {decimal : Scientific} {length : Nat} (lengthPos : 0 < length)
    (nonzero : decimal.coefficient ≠ 0) (bound : decimal.coefficient ≤ 10 ^ length) :
    decimal.significant.length ≤ length := by
  rcases Nat.lt_or_eq_of_le bound with less | power
  · obtain ⟨places, split, -, -⟩ := significant_spec nonzero
    have count := (digitCount_le_iff decimal.coefficient length).mpr less
    rw [digitCount, split, List.length_append] at count
    omega
  · have one : decimal.significant = dropTrailing [1] := by
      rw [significant, if_neg nonzero, power, digits_pow]
      exact dropTrailing_append_zeros [1] length
    rw [one, dropTrailing, List.rdropWhile_singleton]
    exact lengthPos

end Scientific

end PointRecords.Decimal
