import PointRecords.Decimal.Literal
import PointRecords.Proofs.Decimal.Layout
import PointRecords.Proofs.Decimal.Shortest

/-!
# Plain decimals and how they are read

A plain decimal is an optional minus sign, a whole part and possibly a fraction.
The plain layout writes nothing else.  Its texts are read as the pattern that
they were written for, and no text with fewer significant digits is read as that
pattern.
-/

namespace PointRecords.Decimal

def isMark (character : Char) : Bool := character == 'e' || character == 'E'

/-- The digits of a text before its exponent. -/
def mantissaDigits (text : List Char) : List Nat :=
  (text.takeWhile (!isMark ·)).filterMap digitOf?

/-- The number of digits of a text before its exponent, the zeros at either end
not counted. -/
def significantDigits (text : List Char) : Nat :=
  (stripZeros (mantissaDigits text)).length

/-- A text is a decimal in its places: the whole part has no superfluous zero in
front, and a fraction, if there is one, none at the end. -/
def IsPlainDecimal (text : List Char) : Prop :=
  ∃ (negative : Bool) (whole fraction : List Nat),
    text = (if negative then ['-'] else []) ++ (whole.map digitChar ++ pointed false fraction) ∧
    AreDigits whole ∧ AreDigits fraction ∧ whole ≠ [] ∧ NoLeadingZero whole ∧
    fraction.getLast? ≠ some 0

/-! ## Literals made of digits -/

theorem decimalLiteral_pointed {whole fraction : List Nat} (wholeDigits : AreDigits whole)
    (fractionDigits : AreDigits fraction) (nonempty : whole ≠ []) :
    decimalLiteral (whole.map digitChar ++ pointed false fraction) =
      some (value (whole ++ fraction), -(fraction.length : Int)) := by
  by_cases noFraction : fraction = []
  · have run := digitRun_append wholeDigits noDigit_nil
    rw [List.append_nil] at run
    simp [decimalLiteral, pointed, noFraction, run, nonempty, exponentPart]
  · have stops : NoDigit ('.' :: fraction.map digitChar) := noDigit_cons.mpr rfl
    have run := digitRun_append wholeDigits stops
    have fractionRun := digitRun_append fractionDigits noDigit_nil
    rw [List.append_nil] at fractionRun
    simp [decimalLiteral, pointed, noFraction, run, fractionRun, exponentPart]

theorem isMark_of_exponentPart {text : List Char} {exponent : Int}
    (read : exponentPart text = some exponent) :
    ∀ character ∈ text.head?, isMark character = true := by
  cases text with
  | nil => simp
  | cons mark rest =>
      intro character isHead
      rw [List.head?_cons, Option.mem_some_iff] at isHead
      subst isHead
      by_contra other
      have notMark : ¬ (mark = 'e' ∨ mark = 'E') := by simpa [isMark] using other
      simp [exponentPart, notMark] at read

theorem exists_of_decimalLiteral {text : List Char} {coefficient : Nat} {exponent : Int}
    (read : decimalLiteral text = some (coefficient, exponent)) :
    ∃ whole fraction point after,
      text = whole.map digitChar ++ (point ++ (fraction.map digitChar ++ after)) ∧
      AreDigits whole ∧ AreDigits fraction ∧ (point = [] ∨ point = ['.']) ∧
      (∀ character ∈ after.head?, isMark character = true) ∧
      coefficient = value (whole ++ fraction) := by
  have split := digitRun_split text
  have wholeDigits := areDigits_digitRun text
  simp only [decimalLiteral] at read
  generalize digitRun text = run at split wholeDigits read
  obtain ⟨whole, afterWhole⟩ := run
  dsimp only at split wholeDigits read
  split at read
  · rename_i rest
    split at read
    · cases read
    · rw [Option.map_eq_some_iff] at read
      obtain ⟨exponentRead, readExponent, equal⟩ := read
      rw [Prod.mk.injEq] at equal
      refine ⟨whole, (digitRun rest).1, ['.'], (digitRun rest).2, ?_, wholeDigits,
        areDigits_digitRun rest, Or.inr rfl, isMark_of_exponentPart readExponent,
        equal.1.symm⟩
      rw [digitRun_split, List.singleton_append, split]
  · split at read
    · cases read
    · rw [Option.map_eq_some_iff] at read
      obtain ⟨exponentRead, readExponent, equal⟩ := read
      rw [Prod.mk.injEq] at equal
      exact ⟨whole, [], [], afterWhole, by simpa using split.symm, wholeDigits, areDigits_nil,
        Or.inl rfl, isMark_of_exponentPart readExponent, equal.1.symm⟩

theorem mantissaDigits_append {digitList : List Nat} (areDigits : AreDigits digitList)
    (rest : List Char) :
    mantissaDigits (digitList.map digitChar ++ rest) = digitList ++ mantissaDigits rest := by
  induction digitList with
  | nil => rfl
  | cons digit digitList ih =>
      rw [areDigits_cons] at areDigits
      have notMark : isMark (digitChar digit) = false := by
        have := areDigits.1
        interval_cases digit <;> rfl
      have later := ih areDigits.2
      unfold mantissaDigits at later ⊢
      simp [notMark, areDigits.1, later]

theorem mantissaDigits_cons_of_not_digit {character : Char} (rest : List Char)
    (notDigit : digitOf? character = none) (notMark : isMark character = false) :
    mantissaDigits (character :: rest) = mantissaDigits rest := by
  simp [mantissaDigits, notDigit, notMark]

theorem mantissaDigits_exponent {text : List Char}
    (isExponent : ∀ character ∈ text.head?, isMark character = true) :
    mantissaDigits text = [] := by
  cases text with
  | nil => rfl
  | cons mark rest =>
      have isMark := isExponent mark rfl
      simp [mantissaDigits, isMark]

/-- The digits before the exponent are those of the two parts. -/
theorem mantissaDigits_parts {sign point after : List Char} {whole fraction : List Nat}
    (isSign : sign = [] ∨ sign = ['-'] ∨ sign = ['+']) (wholeDigits : AreDigits whole)
    (fractionDigits : AreDigits fraction) (isPoint : point = [] ∨ point = ['.'])
    (isExponent : ∀ character ∈ after.head?, isMark character = true) :
    mantissaDigits (sign ++ (whole.map digitChar ++ (point ++ (fraction.map digitChar ++ after)))) =
      whole ++ fraction := by
  have signPasses : ∀ rest, mantissaDigits (sign ++ rest) = mantissaDigits rest := by
    intro rest
    rcases isSign with rfl | rfl | rfl
    · rfl
    · exact mantissaDigits_cons_of_not_digit rest rfl rfl
    · exact mantissaDigits_cons_of_not_digit rest rfl rfl
  have pointPasses : ∀ rest, mantissaDigits (point ++ rest) = mantissaDigits rest := by
    intro rest
    rcases isPoint with rfl | rfl
    · rfl
    · exact mantissaDigits_cons_of_not_digit rest rfl rfl
  rw [signPasses, mantissaDigits_append wholeDigits, pointPasses,
    mantissaDigits_append fractionDigits, mantissaDigits_exponent isExponent, List.append_nil]

/-! ## Patterns -/

variable {format : Binary.Format}

theorem lowercase_ne_of_digit {digit : Nat} (isDigit : digit < 10) (rest : List Char) :
    lowercase (digitChar digit :: rest) ≠ "inf" ∧
      lowercase (digitChar digit :: rest) ≠ "infinity" ∧
      lowercase (digitChar digit :: rest) ≠ "nan" := by
  have head : ∀ word : String, lowercase (digitChar digit :: rest) = word →
      word.toList.head? = some (digitChar digit).toLower := by
    rintro word rfl
    simp [lowercase]
  refine ⟨fun equal => ?_, fun equal => ?_, fun equal => ?_⟩
  · have := head _ equal
    interval_cases digit <;> simp_all [digitChar]
  · have := head _ equal
    interval_cases digit <;> simp_all [digitChar]
  · have := head _ equal
    interval_cases digit <;> simp_all [digitChar]

/-- A plain decimal is read as the nearest pattern. -/
theorem readLiteral_plain (negative : Bool) {whole fraction : List Nat}
    (wholeDigits : AreDigits whole) (fractionDigits : AreDigits fraction)
    (nonempty : whole ≠ []) :
    readLiteral format
        ((if negative then ['-'] else []) ++ (whole.map digitChar ++ pointed false fraction)) =
      .ok (.ofDecimal negative (value (whole ++ fraction)) (-(fraction.length : Int))) := by
  have literal := decimalLiteral_pointed wholeDigits fractionDigits nonempty
  obtain ⟨digit, more, rfl⟩ := List.exists_cons_of_ne_nil nonempty
  have isDigit := (areDigits_cons.mp wholeDigits).1
  rw [List.map_cons, List.cons_append] at literal ⊢
  generalize more.map digitChar ++ pointed false fraction = rest at literal ⊢
  obtain ⟨notInf, notInfinity, notNan⟩ := lowercase_ne_of_digit isDigit rest
  have unsigned : ∀ negative, readUnsigned format negative (digitChar digit :: rest) =
      some (.ofDecimal negative (value (digit :: more ++ fraction)) (-(fraction.length : Int))) := by
    intro negative
    simp [readUnsigned, notInf, notInfinity, notNan, literal]
  cases negative with
  | true => simp [readLiteral, unsigned]
  | false =>
      have notSign := digitChar_ne_sign isDigit
      have noSign : ∀ rest', digitChar digit :: rest ≠ '-' :: rest' ∧
          digitChar digit :: rest ≠ '+' :: rest' := by
        simp [notSign]
      simp only [Bool.false_eq_true, if_false, List.nil_append, readLiteral]
      split
      · rename_i read
        split at read
        · exact absurd ‹_› (noSign _).1
        · exact absurd ‹_› (noSign _).2
        · rw [unsigned] at read
          cases read
          rfl
      · rename_i read
        split at read
        · exact absurd ‹_› (noSign _).1
        · exact absurd ‹_› (noSign _).2
        · rw [unsigned] at read
          cases read

/-- Whatever is read as a finite pattern is a sign and a literal made of digits. -/
theorem exists_of_readLiteral {text : List Char} {pattern : Binary.Pattern format}
    (finite : pattern.magnitude < format.infinity) (read : readLiteral format text = .ok pattern) :
    ∃ sign rest coefficient exponent, text = sign ++ rest ∧
      (sign = [] ∨ sign = ['-'] ∨ sign = ['+']) ∧
      decimalLiteral rest = some (coefficient, exponent) ∧
      pattern.magnitude = format.ofDecimal coefficient exponent := by
  have unsigned : ∀ {negative : Bool} {rest : List Char},
      readUnsigned format negative rest = some pattern →
      ∃ coefficient exponent, decimalLiteral rest = some (coefficient, exponent) ∧
        pattern.magnitude = format.ofDecimal coefficient exponent := by
    intro negative rest readRest
    unfold readUnsigned at readRest
    split at readRest
    · cases readRest
      exact absurd finite (lt_irrefl _)
    · split at readRest
      · cases readRest
        have above : format.infinity ≤ format.notANumber := Nat.le_add_right _ _
        exact absurd finite (not_lt.mpr above)
      · rw [Option.map_eq_some_iff] at readRest
        obtain ⟨⟨coefficient, exponent⟩, literal, rfl⟩ := readRest
        exact ⟨coefficient, exponent, literal, rfl⟩
  simp only [readLiteral] at read
  split at read
  · rename_i other readOther
    cases read
    split at readOther
    · obtain ⟨coefficient, exponent, found⟩ := unsigned readOther
      exact ⟨['-'], _, coefficient, exponent, rfl, by simp, found⟩
    · obtain ⟨coefficient, exponent, found⟩ := unsigned readOther
      exact ⟨['+'], _, coefficient, exponent, rfl, by simp, found⟩
    · obtain ⟨coefficient, exponent, found⟩ := unsigned readOther
      exact ⟨[], _, coefficient, exponent, rfl, by simp, found⟩
  · cases read

end PointRecords.Decimal
