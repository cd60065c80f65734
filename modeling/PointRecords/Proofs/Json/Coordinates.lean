import PointRecords.Proofs.Decimal.ReadBack
import PointRecords.Proofs.Json.Layouts
import PointRecords.Proofs.Json.Records
import PointRecords.Proofs.Json.Survival

/-!
# Coordinates in JSON

The text of a finite coordinate is a numeral, with all of its digits in the
significand that the reader collects.  Its value is rounded to the coordinate that it
was written for, whichever of the two layouts it has.  So a finite point is read back
from its text bit by bit.
-/

namespace PointRecords.Json

open Decimal Binary

namespace Numeral

/-- Digits that fit the significand are all appended. -/
theorem fill_of_lt {significand : Nat} {digitList : List Nat}
    (fits : significand * 10 ^ digitList.length + value digitList < unsignedLimit) :
    fill significand digitList =
      (significand * 10 ^ digitList.length + value digitList, digitList.length) := by
  induction digitList generalizing significand with
  | nil => simp [fill]
  | cons digit digitList ih =>
      have split : significand * 10 ^ (digit :: digitList).length + value (digit :: digitList) =
          (10 * significand + digit) * 10 ^ digitList.length + value digitList := by
        rw [List.length_cons, value_cons, pow_succ]
        ring
      rw [split] at fits ⊢
      have first : 10 * significand + digit < unsignedLimit := by
        refine lt_of_le_of_lt ?_ fits
        exact (Nat.le_mul_of_pos_right _ (by positivity)).trans (Nat.le_add_right _ _)
      rw [fill, if_pos first, ih fits, List.length_cons]

/-- A numeral whose digits fit the significand is scaled once. -/
theorem floatingMagnitude_eq {numeral : Numeral} (fits : numeral.mantissa < unsignedLimit)
    (small : numeral.power10.natAbs < exponentLimit) :
    numeral.floatingMagnitude =
      scaleBy (.ofInt numeral.mantissa) (numeral.power10 - numeral.fraction.length) := by
  have digits : numeral.mantissa =
      value numeral.whole * 10 ^ numeral.fraction.length + value numeral.fraction :=
    value_append _ _
  have wholeFits : 0 * 10 ^ numeral.whole.length + value numeral.whole < unsignedLimit := by
    rw [Nat.zero_mul, Nat.zero_add]
    refine lt_of_le_of_lt ?_ (digits ▸ fits)
    exact (Nat.le_mul_of_pos_right _ (by positivity)).trans (Nat.le_add_right _ _)
  have wholeFill := fill_of_lt wholeFits
  rw [Nat.zero_mul, Nat.zero_add] at wholeFill
  have fractionFill := fill_of_lt (digits ▸ fits)
  rw [← digits] at fractionFill
  obtain ⟨negative, whole, fraction, exponent⟩ := numeral
  simp only [floatingMagnitude, wholeFill, fractionFill]
  cases exponent with
  | none =>
      simp [power10]
  | some exponent =>
      obtain ⟨exponentNegative, digitList⟩ := exponent
      have within : ¬ exponentLimit ≤ value digitList := by
        cases exponentNegative <;> simpa [power10, signed] using small
      simp only [within, if_false, power10, signed]
      congr 1
      cases exponentNegative
      · simp
        ring
      · simp
        ring

/-- The numeral of a decimal in the layout of coordinates. -/
def ofDecimal (negative : Bool) (decimal : Scientific) : Numeral :=
  if Layout.jsonSingle.isPositional decimal.leading then
    ⟨negative, wholePart decimal.leading decimal.significant,
      kept (fractionPart decimal.leading decimal.significant), none⟩
  else
    ⟨negative, decimal.significant.take 1, decimal.significant.drop 1,
      some ⟨decide (decimal.leading < 0), writtenDigits decimal.leading.natAbs⟩⟩

theorem ofDecimal_eq (negative : Bool) (decimal : Scientific) :
    ofDecimal negative decimal = laidOut .jsonSingle negative decimal :=
  rfl

theorem ofDecimal_negative (negative : Bool) (decimal : Scientific) :
    (ofDecimal negative decimal).negative = negative :=
  laidOut_negative .jsonSingle negative decimal

/-- A numeral with a point or an exponent. -/
theorem isInteger_ofDecimal (negative : Bool) (decimal : Scientific) :
    (ofDecimal negative decimal).isInteger = false := by
  unfold ofDecimal
  split
  · simp [isInteger, kept_ne_nil]
  · simp [isInteger]

/-- A numeral in places has no more than fifteen digits. -/
theorem length_positional_le {leading : Int} {digitList : List Nat} (low : -6 ≤ leading)
    (high : leading ≤ 12) (short : digitList.length ≤ 9) :
    (wholePart leading digitList).length + (kept (fractionPart leading digitList)).length ≤ 15 ∧
      (kept (fractionPart leading digitList)).length ≤ 14 := by
  have keptLe : (kept (fractionPart leading digitList)).length ≤
      max 1 (fractionPart leading digitList).length := by
    unfold kept
    split <;> simp
  unfold wholePart fractionPart at *
  split at keptLe
  · rename_i isNegative
    simp only [isNegative, if_true, List.length_append, List.length_replicate, List.length_singleton]
      at keptLe ⊢
    omega
  · rename_i nonneg
    simp only [nonneg, if_false, List.length_append, List.length_replicate, List.length_take,
      List.length_drop] at keptLe ⊢
    omega

/-- The digits of a numeral can be collected and scaled, and the result is rounded to a
magnitude. -/
structure ReadsAs (numeral : Numeral) (magnitude : Nat) : Prop where
  fits : numeral.mantissa < 2 ^ 53
  near : numeral.place.natAbs ≤ 55
  small : numeral.power10.natAbs < exponentLimit
  finite : scaled numeral.mantissa numeral.place < Format.double.infinity
  convert_eq : Format.double.convert .single (scaled numeral.mantissa numeral.place) = magnitude

theorem readsAs_zero (negative : Bool) : (ofDecimal negative ⟨0, 0⟩).ReadsAs 0 := by
  have mantissaEq : (ofDecimal negative ⟨0, 0⟩).mantissa = 0 := rfl
  have powerEq : (ofDecimal negative ⟨0, 0⟩).power10 = 0 := rfl
  have placeEq : (ofDecimal negative ⟨0, 0⟩).place = -1 := rfl
  constructor
  · rw [mantissaEq]
    decide
  · rw [placeEq]
    decide
  · rw [powerEq]
    decide
  · rw [mantissaEq, placeEq]
    decide +kernel
  · rw [mantissaEq, placeEq]
    decide +kernel

theorem readsAs_ofDecimal (negative : Bool) {magnitude : Nat} (positive : 0 < magnitude)
    (finite : magnitude < Format.single.infinity) :
    (ofDecimal negative (Format.single.shortest .even magnitude)).ReadsAs magnitude := by
  have written := isWritten_shortest positive finite
  obtain ⟨-, short, -⟩ :=
    Format.length_significant_shortest .even positive Format.suffices_single
  set decimal := Format.single.shortest .even magnitude
  have nonempty := List.length_pos_of_ne_nil decimal.significant_ne_nil
  obtain ⟨significandPos, significandFits, exponentLe, -⟩ := written.bounds positive finite
  obtain ⟨finiteScaled, convertEq⟩ := convert_scaled positive finite written
  by_cases isPositional : Layout.jsonSingle.isPositional decimal.leading = true
  · have range : -6 ≤ decimal.leading ∧ decimal.leading ≤ 12 := by
      simpa [Layout.jsonSingle] using isPositional
    obtain ⟨lengthLe, keptLe⟩ := length_positional_le range.1 range.2 short
    have numeralEq := mantissa_laidOut .jsonSingle negative decimal
    rw [← ofDecimal_eq] at numeralEq
    have areDigits := areDigits_parts decimal.leading decimal.areDigits_significant
    have fits : (ofDecimal negative decimal).mantissa < 2 ^ 53 := by
      rw [ofDecimal, if_pos isPositional]
      refine (value_lt (areDigits_append.mpr ⟨areDigits.1, areDigits_kept areDigits.2⟩)).trans ?_
      rw [List.length_append]
      exact (Nat.pow_le_pow_right (by decide) lengthLe).trans_lt (by norm_num)
    have powerEq : (ofDecimal negative decimal).power10 = 0 := by
      rw [ofDecimal, if_pos isPositional]
      rfl
    have placeLe : (ofDecimal negative decimal).place.natAbs ≤ 14 := by
      rw [ofDecimal, if_pos isPositional]
      simp only [place, power10]
      omega
    have same := scaled_eq_scaled significandPos significandFits fits
      (by omega : (decimal.leading + 1 - decimal.significant.length).natAbs ≤ 22) (by omega)
      ((Scientific.value_significant decimal).trans numeralEq.symm)
    exact ⟨fits, by omega, by rw [powerEq]; decide, same ▸ finiteScaled, same ▸ convertEq⟩
  · obtain ⟨mantissaEq, powerEq, placeEq⟩ :=
      parts_of_scientific .jsonSingle negative isPositional
    rw [← ofDecimal_eq] at mantissaEq powerEq placeEq
    refine ⟨mantissaEq ▸ significandFits, placeEq ▸ exponentLe, ?_, ?_, ?_⟩
    · rw [powerEq]
      unfold exponentLimit
      omega
    · rw [mantissaEq, placeEq]
      exact finiteScaled
    · rw [mantissaEq, placeEq]
      exact convertEq

/-- The numeral of a finite coordinate is evaluated to a number that rounds to it. -/
theorem evaluate_ofDecimal {coordinate : Coordinate} (finite : coordinate.isFinite) :
    ∃ number, (ofDecimal coordinate.negative
        (Format.single.shortest .even coordinate.magnitude)).evaluate = some number ∧
      coordinateOfNumber number = .ok coordinate := by
  have reads : (ofDecimal coordinate.negative
      (Format.single.shortest .even coordinate.magnitude)).ReadsAs coordinate.magnitude := by
    rcases Nat.eq_zero_or_pos coordinate.magnitude with isZero | positive
    · rw [isZero]
      exact readsAs_zero coordinate.negative
    · exact readsAs_ofDecimal _ positive (Pattern.isFinite_iff.mp finite)
  have notInteger := isInteger_ofDecimal coordinate.negative
    (Format.single.shortest .even coordinate.magnitude)
  have negativeEq := ofDecimal_negative coordinate.negative
    (Format.single.shortest .even coordinate.magnitude)
  set numeral := ofDecimal coordinate.negative (Format.single.shortest .even coordinate.magnitude)
  obtain ⟨fits, near, small, finiteScaled, convertEq⟩ := reads
  obtain ⟨bound, scaleEq⟩ := scaleBy_ofInt (near.trans (by norm_num)) finiteScaled
  have magnitudeEq := floatingMagnitude_eq (fits.trans (by decide)) small
  rw [← place, scaleEq] at magnitudeEq
  refine ⟨.floating ⟨numeral.negative, scaled numeral.mantissa numeral.place, bound⟩, ?_, ?_⟩
  · simp [evaluate, notInteger, magnitudeEq]
  · obtain ⟨negative, magnitude, magnitudeLt⟩ := coordinate
    simp only at negativeEq convertEq
    simp only [coordinateOfNumber, Pattern.convert, negativeEq, convertEq]

end Numeral

/-- The text of a finite coordinate is a coordinate. -/
theorem coordinateAt_coordinateText {coordinate : Coordinate} (finite : coordinate.isFinite)
    (rest : List Char) :
    CoordinateAt ((coordinateText coordinate).toList ++ rest) coordinate rest := by
  obtain ⟨number, evaluated, isCoordinate⟩ := Numeral.evaluate_ofDecimal finite
  have textEq : (coordinateText coordinate).toList =
      (if coordinate.negative then ['-'] else []) ++
        (Format.single.shortest .even coordinate.magnitude).write .jsonSingle := by
    rw [coordinateText, if_pos finite, Coordinate.text, String.toList_ofList]
    exact Pattern.write_of_isFinite .jsonSingle finite
  rw [textEq, List.append_assoc]
  exact ⟨_, number, Numeral.spelledAt_laidOut .jsonSingle _ _ rest, evaluated, isCoordinate⟩

/-- A name that is written as it is. -/
def IsPlainName (name : List Char) : Prop :=
  ∀ character ∈ name, character ≠ '"' ∧ character ≠ '\\' ∧ 0x20 ≤ character.toNat

theorem isPlainName_singleton {character : Char}
    (plain : character ≠ '"' ∧ character ≠ '\\' ∧ 0x20 ≤ character.toNat) :
    IsPlainName [character] := by
  intro other member
  obtain rfl := List.mem_singleton.mp member
  exact plain

theorem stringAt_of_isPlainName {escape : List Char → Char → List Char → Prop} {name : List Char}
    (plain : IsPlainName name) (rest : List Char) :
    StringAt escape (name ++ '"' :: rest) name rest := by
  induction name with
  | nil => exact .close
  | cons character name ih =>
      obtain ⟨notQuote, notBackslash, notControl⟩ := plain character (by simp)
      exact .plain notQuote notBackslash notControl
        (ih fun other member => plain other (List.mem_cons_of_mem _ member))

theorem keyAt_of_isPlainName {name : List Char} (plain : IsPlainName name) (rest : List Char) :
    KeyAt ('"' :: (name ++ '"' :: ':' :: rest)) name rest :=
  ⟨_, _, _, blanks_refl _, stringAt_of_isPlainName plain _, blanks_refl _, blanks_refl _⟩

/-- The text of a record, character by character. -/
theorem toList_write (names texts : Triple String) :
    (write names texts).toList = '\x7b' :: '"' :: (names.first.toList ++ '"' :: ':' ::
      (texts.first.toList ++ ',' :: '"' :: (names.second.toList ++ '"' :: ':' ::
        (texts.second.toList ++ ',' :: '"' :: (names.third.toList ++ '"' :: ':' ::
          (texts.third.toList ++ ['\x7d'])))))) := by
  delta write
  simp [String.toList_append]

/-- What is written for a record is one, if its texts are fields. -/
theorem recordText_write {α : Type} {names texts : Triple String}
    {field : List Char → α → List Char → Prop} {fields : Triple α}
    (plain : ∀ place, IsPlainName (names.get place).toList)
    (isField : ∀ place rest, field ((texts.get place).toList ++ rest) (fields.get place) rest) :
    RecordText names field (write names texts).toList fields := by
  have member : ∀ place rest, MemberAt names field
      ('"' :: ((names.get place).toList ++ '"' :: ':' :: ((texts.get place).toList ++ rest)))
      [(place, fields.get place)] rest :=
    fun place rest => .own place (keyAt_of_isPlainName (plain place) _) (isField place rest)
  have members := MembersAt.more (member .first _) (blanks_refl _)
    (.more (member .second _) (blanks_refl _) (.last (member .third _) (blanks_refl ['\x7d'])))
  refine ⟨_, [], blanks_refl _, ?_, blanks_refl _⟩
  rw [toList_write]
  refine .object members ?_
  intro place
  cases place <;> rfl

end PointRecords.Json
