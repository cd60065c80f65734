import PointRecords.Proofs.Decimal.Literal
import PointRecords.Proofs.Json.Numerals

/-!
# Numerals of decimals

Whatever the layout, what is written for a decimal is a numeral of the grammar.  It
denotes the decimal exactly, and its significant digits are those of the decimal.
-/

namespace PointRecords.Json.Numeral

open Decimal

/-- The exponent with its sign, zero if there is none. -/
def power10 (numeral : Numeral) : Int :=
  match numeral.exponent with
  | none => 0
  | some ⟨negative, digitList⟩ => signed negative (value digitList)

def mantissa (numeral : Numeral) : Nat :=
  value (numeral.whole ++ numeral.fraction)

/-- The power of ten at the last digit of a numeral. -/
def place (numeral : Numeral) : Int :=
  numeral.power10 - numeral.fraction.length

/-- A fraction as it is written: a whole number keeps a zero. -/
def kept (fraction : List Nat) : List Nat :=
  if fraction = [] then [0] else fraction

theorem kept_ne_nil (fraction : List Nat) : kept fraction ≠ [] := by
  unfold kept
  split <;> simp_all

theorem areDigits_kept {fraction : List Nat} (areDigits : AreDigits fraction) :
    AreDigits (kept fraction) := by
  unfold kept
  split
  · simp
  · exact areDigits

theorem value_kept (whole fraction : List Nat) :
    (value (whole ++ kept fraction) : ℚ) * 10 ^ (-((kept fraction).length : Int)) =
      value (whole ++ fraction) * 10 ^ (-(fraction.length : Int)) := by
  unfold kept
  split
  · rename_i empty
    subst empty
    simp [mul_comm (10 : ℚ)]
  · rfl

theorem stripZeros_kept (whole fraction : List Nat) :
    stripZeros (whole ++ kept fraction) = stripZeros (whole ++ fraction) := by
  unfold kept
  split
  · rename_i empty
    rw [empty, List.append_nil]
    exact stripZeros_append_zeros whole 1
  · rfl

/-- A fraction as a layout writes it. -/
def shown (keepsPoint : Bool) (fraction : List Nat) : List Nat :=
  if keepsPoint then kept fraction else fraction

theorem fractionAt_pointed (keepsPoint : Bool) {fraction : List Nat}
    (areDigits : AreDigits fraction) (rest : List Char) :
    FractionAt (pointed keepsPoint fraction ++ rest) (shown keepsPoint fraction) rest := by
  by_cases empty : fraction = []
  · subst empty
    cases keepsPoint with
    | false => exact Or.inl ⟨rfl, rfl⟩
    | true => exact Or.inr ⟨by decide, by simp [shown, kept], rfl⟩
  · have shownEq : shown keepsPoint fraction = fraction := by
      cases keepsPoint <;> simp [shown, kept, empty]
    rw [shownEq, pointed, if_neg empty]
    exact Or.inr ⟨empty, areDigits, rfl⟩

/-- The numeral that a layout makes of a decimal. -/
def laidOut (layout : Layout) (negative : Bool) (decimal : Scientific) : Numeral :=
  if layout.isPositional decimal.leading then
    ⟨negative, wholePart decimal.leading decimal.significant,
      shown layout.keepsPoint (fractionPart decimal.leading decimal.significant), none⟩
  else
    ⟨negative, decimal.significant.take 1, decimal.significant.drop 1,
      some ⟨decide (decimal.leading < 0), writtenDigits decimal.leading.natAbs⟩⟩

theorem laidOut_negative (layout : Layout) (negative : Bool) (decimal : Scientific) :
    (laidOut layout negative decimal).negative = negative := by
  unfold laidOut
  split <;> rfl

/-! ## Texts -/

theorem unsignedAt_positional (keepsPoint negative : Bool) (decimal : Scientific)
    (rest : List Char) :
    UnsignedAt (positional keepsPoint decimal.leading decimal.significant ++ rest)
      ⟨negative, wholePart decimal.leading decimal.significant,
        shown keepsPoint (fractionPart decimal.leading decimal.significant), none⟩ rest := by
  have nonempty := decimal.significant_ne_nil
  have areDigits := areDigits_parts decimal.leading decimal.areDigits_significant
  refine ⟨wholePart_ne_nil _ nonempty, areDigits.1, noLeadingZero_wholePart decimal, ?_⟩
  rw [positional_eq keepsPoint _ nonempty]
  exact ⟨_, rest, List.append_assoc _ _ _, fractionAt_pointed keepsPoint areDigits.2 rest, .absent⟩

theorem exponentAt_integer (signsExponent : Bool) (leading : Int) (rest : List Char) :
    ExponentAt
      ('e' :: ((if signsExponent && 0 ≤ leading then ['+'] else []) ++ integer leading ++ rest))
      (some ⟨decide (leading < 0), writtenDigits leading.natAbs⟩) rest := by
  have digits := areDigits_writtenDigits leading.natAbs
  have nonempty := writtenDigits_ne_nil leading.natAbs
  have exponent : ∀ {sign : List Char} {negative : Bool}, IsSign sign negative →
      ExponentAt ('e' :: (sign ++ ((writtenDigits leading.natAbs).map digitChar ++ rest)))
        (some ⟨negative, writtenDigits leading.natAbs⟩) rest := fun isSign =>
    .present (Or.inl rfl) isSign nonempty digits
  rcases lt_or_ge leading 0 with isNegative | nonneg
  · have isSign : IsSign ['-'] true := Or.inr (Or.inr ⟨rfl, rfl⟩)
    simpa [integer, natural_eq, isNegative, not_le.mpr isNegative] using exponent isSign
  · cases signsExponent with
    | false =>
        have isSign : IsSign [] false := Or.inl ⟨rfl, rfl⟩
        simpa [integer, natural_eq, nonneg, not_lt.mpr nonneg] using exponent isSign
    | true =>
        have isSign : IsSign ['+'] false := Or.inr (Or.inl ⟨rfl, rfl⟩)
        simpa [integer, natural_eq, nonneg, not_lt.mpr nonneg] using exponent isSign

theorem unsignedAt_scientific (signsExponent negative : Bool) (decimal : Scientific)
    (rest : List Char) :
    UnsignedAt (Decimal.scientific signsExponent decimal.leading decimal.significant ++ rest)
      ⟨negative, decimal.significant.take 1, decimal.significant.drop 1,
        some ⟨decide (decimal.leading < 0), writtenDigits decimal.leading.natAbs⟩⟩ rest := by
  have areDigits := decimal.areDigits_significant
  have exponent := exponentAt_integer signsExponent decimal.leading rest
  unfold Decimal.scientific
  cases significant : decimal.significant with
  | nil => exact absurd significant decimal.significant_ne_nil
  | cons first more =>
      rw [significant, areDigits_cons] at areDigits
      refine ⟨by simp, by simp [areDigits.1], by simp [NoLeadingZero], ?_⟩
      cases more with
      | nil =>
          refine ⟨_, _, ?_, Or.inl ⟨rfl, rfl⟩, exponent⟩
          simp
      | cons second more =>
          refine ⟨_, _, ?_, Or.inr ⟨by simp, areDigits.2, rfl⟩, exponent⟩
          simp

theorem spelledAt_laidOut (layout : Layout) (negative : Bool) (decimal : Scientific)
    (rest : List Char) :
    (laidOut layout negative decimal).SpelledAt
      ((if negative then ['-'] else []) ++ (decimal.write layout ++ rest)) rest := by
  refine ⟨decimal.write layout ++ rest, by rw [laidOut_negative], ?_⟩
  unfold laidOut Scientific.write
  split
  · exact unsignedAt_positional layout.keepsPoint negative decimal rest
  · exact unsignedAt_scientific layout.signsExponent negative decimal rest

theorem isMark_of_exponentAt {text : List Char} {exponent : Option Exponent}
    (isExponent : ExponentAt text exponent []) :
    ∀ character ∈ text.head?, Decimal.isMark character = true := by
  cases isExponent with
  | absent => simp
  | present isMark _ _ _ => simpa [Decimal.isMark] using isMark

/-- The significant digits of a numeral are those before its exponent. -/
theorem SpelledAt.significantDigits_eq {text : List Char} {numeral : Numeral}
    (spelled : numeral.SpelledAt text []) :
    significantDigits text = (stripZeros (numeral.whole ++ numeral.fraction)).length := by
  obtain ⟨unsigned, rfl, nonempty, wholeDigits, -, afterWhole, afterFraction, rfl, isFraction,
    isExponent⟩ := spelled
  have isMark := isMark_of_exponentAt isExponent
  have isSign : (if numeral.negative then ['-'] else []) = ([] : List Char) ∨
      (if numeral.negative then ['-'] else []) = ['-'] ∨
      (if numeral.negative then ['-'] else []) = ['+'] := by
    cases numeral.negative <;> simp
  rw [significantDigits]
  congr 2
  rcases isFraction with ⟨empty, rfl⟩ | ⟨-, fractionDigits, rfl⟩
  · have parts := mantissaDigits_parts isSign wholeDigits areDigits_nil (Or.inl rfl) isMark
    rw [empty]
    exact parts
  · exact mantissaDigits_parts isSign wholeDigits fractionDigits (Or.inr rfl) isMark

/-! ## Values -/

/-- With an exponent, the digits are the significant ones. -/
theorem parts_of_scientific (layout : Layout) (negative : Bool) {decimal : Scientific}
    (isScientific : ¬ layout.isPositional decimal.leading = true) :
    (laidOut layout negative decimal).mantissa = value decimal.significant ∧
      (laidOut layout negative decimal).power10 = decimal.leading ∧
      (laidOut layout negative decimal).place =
        decimal.leading + 1 - decimal.significant.length := by
  have nonempty := List.length_pos_of_ne_nil decimal.significant_ne_nil
  have exponent : signed (decide (decimal.leading < 0))
      (value (writtenDigits decimal.leading.natAbs)) = decimal.leading := by
    rw [value_writtenDigits, signed]
    split_ifs with isNegative
    · rw [decide_eq_true_eq] at isNegative
      omega
    · rw [decide_eq_true_eq] at isNegative
      omega
  rw [laidOut, if_neg isScientific]
  refine ⟨congrArg value (List.take_append_drop 1 _), exponent, ?_⟩
  simp only [place, power10, exponent, List.length_drop]
  omega

theorem mantissa_laidOut (layout : Layout) (negative : Bool) (decimal : Scientific) :
    ((laidOut layout negative decimal).mantissa : ℚ) * 10 ^ (laidOut layout negative decimal).place =
      decimal.real := by
  rw [← Scientific.value_significant decimal]
  by_cases isPositional : layout.isPositional decimal.leading = true
  · rw [laidOut, if_pos isPositional, ← value_parts]
    simp only [mantissa, place, power10, zero_sub, shown]
    split
    · exact value_kept _ _
    · rfl
  · obtain ⟨mantissaEq, -, placeEq⟩ := parts_of_scientific layout negative isPositional
    rw [mantissaEq, placeEq]

theorem stripZeros_laidOut (layout : Layout) (negative : Bool) (decimal : Scientific) :
    stripZeros ((laidOut layout negative decimal).whole ++
      (laidOut layout negative decimal).fraction) = stripZeros decimal.significant := by
  unfold laidOut
  split
  · rw [← stripZeros_parts decimal.leading decimal.significant]
    simp only [shown]
    split
    · exact stripZeros_kept _ _
    · rfl
  · rw [List.take_append_drop]

end PointRecords.Json.Numeral
