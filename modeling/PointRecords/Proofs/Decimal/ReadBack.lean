import PointRecords.Proofs.Decimal.Literal

/-!
# Plain texts are shortest and are read back

The text of a finite pattern in the plain layout is a plain decimal.  It is read
as the pattern it was written for, and every other text that is read as this
pattern has at least as many significant digits.
-/

namespace PointRecords

open Decimal Binary

namespace Binary.Format

variable {format : Format}

theorem roundsTo_shortest (tie : Tie) (magnitude : Nat) {enough : Nat}
    (enoughDigits : format.Suffices enough) :
    format.RoundsTo (format.shortest tie magnitude).real magnitude := by
  rcases Nat.eq_zero_or_pos magnitude with rfl | positive
  · simpa [shortest, Scientific.real] using format.roundsTo_zero_zero
  · obtain ⟨length, lengthPos, -, found, -⟩ :=
      shortest_spec tie positive enoughDigits
    exact (found_of_decimalOfLength? positive lengthPos found).roundsTo

/-- A decimal that rounds to a magnitude other than zero has at least as many
digits as the shortest one. -/
theorem length_significant_shortest (tie : Tie) {magnitude enough : Nat}
    (positive : 0 < magnitude) (enoughDigits : format.Suffices enough) :
    (format.shortest tie magnitude).coefficient ≠ 0 ∧
      (format.shortest tie magnitude).significant.length ≤ enough ∧
      ∀ (digitList : List Nat) (exponent : Int), AreDigits digitList →
        format.RoundsTo (value digitList * 10 ^ exponent) magnitude →
        (format.shortest tie magnitude).significant.length ≤ digitList.length := by
  obtain ⟨length, lengthPos, lengthLe, found, first⟩ :=
    shortest_spec tie positive enoughDigits
  have known := found_of_decimalOfLength? positive lengthPos found
  have nonzero : (format.shortest tie magnitude).coefficient ≠ 0 := by
    have := known.coefficient_ge
    have : 0 < 10 ^ (length - 1) := by positivity
    omega
  have short := Scientific.length_significant_le lengthPos nonzero known.coefficient_le
  refine ⟨nonzero, short.trans lengthLe, ?_⟩
  intro digitList exponent areDigits rounds
  refine short.trans ?_
  by_contra shorter
  have valuePos : 0 < value digitList := by
    rcases Nat.eq_zero_or_pos (value digitList) with isZero | valuePos
    · rw [isZero, Nat.cast_zero, zero_mul] at rounds
      exact absurd (rounds.unique format.roundsTo_zero_zero) positive.ne'
    · exact valuePos
  have lengthPos : 0 < digitList.length := by
    rcases Nat.eq_zero_or_pos digitList.length with empty | lengthPos
    · rw [List.eq_nil_of_length_eq_zero empty] at valuePos
      exact absurd valuePos (lt_irrefl _)
    · exact lengthPos
  exact not_roundsTo_of_lt positive (first digitList.length lengthPos (not_le.mp shorter)) valuePos
    (value_lt areDigits) exponent rounds

end Binary.Format

namespace Binary.Pattern

variable {format : Format}

/-- The decimal that the plain layout writes for a pattern. -/
def plainDecimal (pattern : Pattern format) : Scientific :=
  format.shortest .upper pattern.magnitude

/-- What is written for a finite pattern: its sign and its decimal. -/
theorem write_of_isFinite (layout : Layout) {pattern : Pattern format}
    (finite : pattern.isFinite = true) :
    pattern.write layout =
      (if pattern.negative then ['-'] else []) ++
        (format.shortest layout.tie pattern.magnitude).write layout := by
  have isNumber : pattern.isNaN = false := isNaN_eq_false_iff.mpr (isFinite_iff.mp finite).le
  rw [write, isNumber, if_neg Bool.false_ne_true, if_pos finite]

/-- What the plain layout writes for it: the sign and the digits in their places. -/
theorem write_plain {pattern : Pattern format} (finite : pattern.isFinite) :
    pattern.write .plain =
      (if pattern.negative then ['-'] else []) ++
        ((wholePart pattern.plainDecimal.leading pattern.plainDecimal.significant).map digitChar ++
          pointed false
            (fractionPart pattern.plainDecimal.leading pattern.plainDecimal.significant)) := by
  rw [write_of_isFinite .plain finite, ← positional_eq _ _ (Scientific.significant_ne_nil _)]
  simp [Scientific.write, Layout.plain, plainDecimal]

theorem isPlainDecimal_write {pattern : Pattern format} (finite : pattern.isFinite) :
    IsPlainDecimal (pattern.write .plain) := by
  have digits := areDigits_parts pattern.plainDecimal.leading
    (Scientific.areDigits_significant pattern.plainDecimal)
  refine ⟨pattern.negative, _, _, write_plain finite, digits.1, digits.2,
    wholePart_ne_nil _ (Scientific.significant_ne_nil _), noLeadingZero_wholePart _, ?_⟩
  by_cases isZero : pattern.plainDecimal.coefficient = 0
  · simp [fractionPart, Scientific.leading, Scientific.significant, isZero]
  · intro last
    have kept := dropTrailing_fractionPart pattern.plainDecimal.leading
      (Scientific.significant_ne_nil _) (Scientific.dropTrailing_significant isZero)
    obtain ⟨earlier, split⟩ := List.getLast?_eq_some_iff.mp last
    rw [split, dropTrailing, List.rdropWhile_concat_pos _ _ _ rfl] at kept
    have shorter := (List.rdropWhile_prefix (· == 0) earlier).length_le
    rw [kept, List.length_append, List.length_singleton] at shorter
    omega

/-- The plain text of a finite pattern is read as this pattern. -/
theorem readLiteral_write (proper : format.IsProper) {enough : Nat}
    (enoughDigits : format.Suffices enough) {pattern : Pattern format}
    (finite : pattern.isFinite) :
    readLiteral format (pattern.write .plain) = .ok pattern := by
  have digits := areDigits_parts pattern.plainDecimal.leading
    (Scientific.areDigits_significant pattern.plainDecimal)
  rw [write_plain finite, readLiteral_plain _ digits.1 digits.2
    (wholePart_ne_nil _ (Scientific.significant_ne_nil _))]
  have rounds := Format.roundsTo_shortest .upper pattern.magnitude enoughDigits
  have magnitude := (Format.ofDecimal_eq_iff proper (isFinite_iff.mp finite)
    (value (wholePart pattern.plainDecimal.leading pattern.plainDecimal.significant ++
      fractionPart pattern.plainDecimal.leading pattern.plainDecimal.significant))
    (-((fractionPart pattern.plainDecimal.leading
      pattern.plainDecimal.significant).length : Int))).mpr (by
        rw [value_parts, Scientific.value_significant]
        exact rounds)
  obtain ⟨negative, patternMagnitude, bound⟩ := pattern
  simp only [ofDecimal, magnitude]

/-- The significant digits of a plain text are those that were written. -/
theorem significantDigits_write {pattern : Pattern format} (finite : pattern.isFinite) :
    significantDigits (pattern.write .plain) =
      (stripZeros pattern.plainDecimal.significant).length := by
  have digits := areDigits_parts pattern.plainDecimal.leading
    (Scientific.areDigits_significant pattern.plainDecimal)
  have isSign : ∀ negative : Bool, (if negative then ['-'] else ([] : List Char)) = [] ∨
      (if negative then ['-'] else []) = ['-'] ∨ (if negative then ['-'] else []) = ['+'] := by
    intro negative
    cases negative <;> simp
  have noExponent : ∀ character ∈ ([] : List Char).head?, isMark character = true := by simp
  rw [significantDigits, write_plain finite,
    ← stripZeros_parts pattern.plainDecimal.leading pattern.plainDecimal.significant]
  congr 2
  by_cases noFraction :
      fractionPart pattern.plainDecimal.leading pattern.plainDecimal.significant = []
  · have parts := mantissaDigits_parts (isSign pattern.negative) digits.1 areDigits_nil
      (Or.inl rfl) noExponent
    simpa [noFraction, pointed] using parts
  · have parts := mantissaDigits_parts (isSign pattern.negative) digits.1 digits.2
      (Or.inr rfl) noExponent
    simpa [noFraction, pointed] using parts

theorem significantDigits_write_of_zero {pattern : Pattern format} (finite : pattern.isFinite)
    (isZero : pattern.magnitude = 0) : significantDigits (pattern.write .plain) = 0 := by
  have decimal : pattern.plainDecimal = ⟨0, 0⟩ := by simp [plainDecimal, Format.shortest, isZero]
  rw [significantDigits_write finite, decimal]
  rfl

theorem significantDigits_write_le {enough : Nat} (enoughDigits : format.Suffices enough)
    {pattern : Pattern format} (finite : pattern.isFinite) :
    significantDigits (pattern.write .plain) ≤ enough := by
  rcases Nat.eq_zero_or_pos pattern.magnitude with isZero | positive
  · rw [significantDigits_write_of_zero finite isZero]
    exact Nat.zero_le _
  · obtain ⟨nonzero, bound, -⟩ :=
      Format.length_significant_shortest .upper positive enoughDigits
    rw [significantDigits_write finite, plainDecimal, Scientific.stripZeros_significant nonzero]
    exact bound

/-- No text that is read as a finite pattern has fewer significant digits than the
one that is written for it. -/
theorem significantDigits_write_le_of_readLiteral (proper : format.IsProper) {enough : Nat}
    (enoughDigits : format.Suffices enough) {pattern : Pattern format}
    (finite : pattern.isFinite) {text : List Char}
    (read : readLiteral format text = .ok pattern) :
    significantDigits (pattern.write .plain) ≤ significantDigits text := by
  rcases Nat.eq_zero_or_pos pattern.magnitude with isZero | positive
  · rw [significantDigits_write_of_zero finite isZero]
    exact Nat.zero_le _
  · obtain ⟨nonzero, -, least⟩ :=
      Format.length_significant_shortest .upper positive enoughDigits
    rw [significantDigits_write finite, plainDecimal, Scientific.stripZeros_significant nonzero]
    obtain ⟨sign, rest, coefficient, exponent, rfl, isSign, literal, magnitude⟩ :=
      exists_of_readLiteral (isFinite_iff.mp finite) read
    obtain ⟨whole, fraction, point, after, rfl, wholeDigits, fractionDigits, isPoint,
      isExponent, rfl⟩ := exists_of_decimalLiteral literal
    have rounds := (Format.ofDecimal_eq_iff proper (isFinite_iff.mp finite) _ _).mp magnitude.symm
    obtain ⟨places, valueEq⟩ := value_eq_stripZeros (whole ++ fraction)
    rw [significantDigits,
      mantissaDigits_parts isSign wholeDigits fractionDigits isPoint isExponent]
    have areDigits := (areDigits_append.mpr ⟨wholeDigits, fractionDigits⟩).stripZeros
    refine least _ (places + exponent) areDigits ?_
    rw [zpow_add₀ (by norm_num), zpow_natCast, ← mul_assoc]
    rw [valueEq] at rounds
    exact_mod_cast rounds

end Binary.Pattern

end PointRecords
