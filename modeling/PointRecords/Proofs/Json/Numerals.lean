import PointRecords.Proofs.Json.Grammar

/-!
# Scanning numerals

The scanner takes a numeral as far as it goes.  It succeeds exactly if the text
begins with a numeral of the grammar that what follows does not continue: with a
digit, with an exponent where there is none yet, or with a point where there is
neither fraction nor exponent.
-/

namespace PointRecords.Json.Numeral

open Decimal

def IsMark (character : Char) : Prop := character = 'e' ∨ character = 'E'

/-- A text does not continue the numeral before it. -/
structure Stops (numeral : Numeral) (rest : List Char) : Prop where
  noDigit : NoDigit rest
  noMark : numeral.exponent = none → ∀ character ∈ rest.head?, ¬ IsMark character
  noPoint : numeral.exponent = none → numeral.fraction = [] → rest.head? ≠ some '.'

theorem scanWhole_eq_ok_iff {text rest : List Char} {whole : List Nat} :
    scanWhole text = .ok (whole, rest) ↔
      whole ≠ [] ∧ AreDigits whole ∧ NoLeadingZero whole ∧ NoDigit rest ∧
        text = whole.map digitChar ++ rest := by
  constructor
  · intro accepted
    unfold scanWhole at accepted
    split at accepted
    · cases accepted
    · split at accepted
      · cases accepted
      · cases accepted
      · rename_i found after nonempty notZero run
        cases accepted
        obtain ⟨textEq, areDigits, stops⟩ := digitRun_eq_iff.mp run
        refine ⟨nonempty, areDigits, ?_, stops, textEq⟩
        intro digit more split
        by_contra leading
        rw [not_or, not_not] at leading
        obtain ⟨second, tail, moreEq⟩ := List.exists_cons_of_ne_nil leading.2
        exact notZero second tail (by rw [split, leading.1, moreEq])
  · rintro ⟨nonempty, areDigits, noLeadingZero, stops, rfl⟩
    have run := digitRun_append areDigits stops
    unfold scanWhole
    split
    · rename_i empty
      simp [nonempty] at empty
    · rw [run]
      split
      · rename_i isNil
        cases isNil
        exact absurd rfl nonempty
      · rename_i isZero
        cases isZero
        rcases noLeadingZero 0 _ rfl with nonzero | alone
        · exact absurd rfl nonzero
        · cases alone
      · rename_i found
        cases found
        rfl

/-- Both a point and the sign of an exponent ask for at least one digit. -/
def someDigits (text : List Char) : Except Defect (List Nat × List Char) :=
  match digitRun text with
  | ([], []) => .error .cutOff
  | ([], _ :: _) => .error .malformed
  | (digitList, rest) => .ok (digitList, rest)

theorem scanFraction_point (text : List Char) : scanFraction ('.' :: text) = someDigits text :=
  rfl

theorem scanExponentDigits_eq (negative : Bool) (text : List Char) :
    scanExponentDigits negative text =
      (someDigits text).map fun found => (some ⟨negative, found.1⟩, found.2) := by
  unfold scanExponentDigits someDigits
  rcases digitRun text with ⟨_ | ⟨digit, others⟩, _ | ⟨character, rest⟩⟩ <;> rfl

theorem someDigits_eq_ok_iff {text rest : List Char} {digitList : List Nat} :
    someDigits text = .ok (digitList, rest) ↔
      digitList ≠ [] ∧ AreDigits digitList ∧ NoDigit rest ∧
        text = digitList.map digitChar ++ rest := by
  constructor
  · intro accepted
    unfold someDigits at accepted
    split at accepted
    · cases accepted
    · cases accepted
    · rename_i notCutOff notMalformed run
      cases accepted
      obtain ⟨rfl, areDigits, stops⟩ := digitRun_eq_iff.mp run
      refine ⟨?_, areDigits, stops, rfl⟩
      rintro rfl
      cases rest with
      | nil => exact notCutOff rfl rfl
      | cons character rest => exact notMalformed _ _ rfl rfl
  · rintro ⟨nonempty, areDigits, stops, rfl⟩
    obtain ⟨digit, others, rfl⟩ := List.exists_cons_of_ne_nil nonempty
    simp only [someDigits, digitRun_append areDigits stops]

theorem scanFraction_eq_ok_iff {text rest : List Char} {fraction : List Nat} :
    scanFraction text = .ok (fraction, rest) ↔
      FractionAt text fraction rest ∧ (fraction = [] → rest.head? ≠ some '.') ∧
        (fraction ≠ [] → NoDigit rest) := by
  by_cases isPoint : text.head? = some '.'
  · obtain ⟨digitText, rfl⟩ := List.head?_eq_some_iff.mp isPoint
    rw [scanFraction_point, someDigits_eq_ok_iff]
    constructor
    · rintro ⟨nonempty, areDigits, stops, rfl⟩
      exact ⟨Or.inr ⟨nonempty, areDigits, rfl⟩, fun empty => absurd empty nonempty,
        fun _ => stops⟩
    · rintro ⟨⟨rfl, rfl⟩ | ⟨nonempty, areDigits, textEq⟩, noPoint, stops⟩
      · exact absurd rfl (noPoint rfl)
      · cases textEq
        exact ⟨nonempty, areDigits, stops nonempty, rfl⟩
  · have absent : scanFraction text = .ok ([], text) := by
      unfold scanFraction
      split
      · exact absurd rfl isPoint
      · rfl
    rw [absent]
    constructor
    · intro accepted
      cases accepted
      exact ⟨Or.inl ⟨rfl, rfl⟩, fun _ => isPoint, fun nonempty => absurd rfl nonempty⟩
    · rintro ⟨⟨rfl, rfl⟩ | ⟨-, -, rfl⟩, -⟩
      · rfl
      · exact absurd rfl isPoint

theorem scanExponentDigits_eq_ok_iff {negative : Bool} {text rest : List Char}
    {exponent : Option Exponent} :
    scanExponentDigits negative text = .ok (exponent, rest) ↔
      ∃ digitList, exponent = some ⟨negative, digitList⟩ ∧ digitList ≠ [] ∧
        AreDigits digitList ∧ NoDigit rest ∧ text = digitList.map digitChar ++ rest := by
  rw [scanExponentDigits_eq, map_eq_ok_iff]
  simp only [Prod.exists, Prod.mk.injEq, someDigits_eq_ok_iff]
  constructor
  · rintro ⟨digitList, after, isRun, rfl, rfl⟩
    exact ⟨digitList, rfl, isRun⟩
  · rintro ⟨digitList, rfl, isRun⟩
    exact ⟨digitList, rest, isRun, rfl, rfl⟩

theorem scanExponent_of_present {sign rest : List Char} {mark : Char} {negative : Bool}
    {digitList : List Nat} (isMark : IsMark mark) (isSign : IsSign sign negative)
    (nonempty : digitList ≠ []) (areDigits : AreDigits digitList) :
    scanExponent (mark :: (sign ++ (digitList.map digitChar ++ rest))) =
      scanExponentDigits negative (digitList.map digitChar ++ rest) := by
  obtain ⟨digit, others, rfl⟩ := List.exists_cons_of_ne_nil nonempty
  have notSign := digitChar_ne_sign (areDigits_cons.mp areDigits).1
  rcases isMark with rfl | rfl
  · rcases isSign with ⟨rfl, rfl⟩ | ⟨rfl, rfl⟩ | ⟨rfl, rfl⟩ <;> simp [scanExponent, notSign]
  · rcases isSign with ⟨rfl, rfl⟩ | ⟨rfl, rfl⟩ | ⟨rfl, rfl⟩ <;> simp [scanExponent, notSign]

theorem scanExponent_eq_ok_iff {text rest : List Char} {exponent : Option Exponent} :
    scanExponent text = .ok (exponent, rest) ↔
      ExponentAt text exponent rest ∧
        (exponent = none → ∀ character ∈ rest.head?, ¬ IsMark character) ∧
        (exponent ≠ none → NoDigit rest) := by
  constructor
  · intro accepted
    have present : ∀ {mark : Char} {sign : List Char} {negative : Bool} {digitText : List Char},
        IsMark mark → IsSign sign negative → text = mark :: (sign ++ digitText) →
        scanExponentDigits negative digitText = .ok (exponent, rest) →
        ExponentAt text exponent rest ∧
          (exponent = none → ∀ character ∈ rest.head?, ¬ IsMark character) ∧
          (exponent ≠ none → NoDigit rest) := by
      intro mark sign negative digitText isMark isSign textEq scanned
      obtain ⟨digitList, rfl, nonempty, areDigits, stops, rfl⟩ :=
        scanExponentDigits_eq_ok_iff.mp scanned
      rw [textEq]
      exact ⟨.present isMark isSign nonempty areDigits, by simp, fun _ => stops⟩
    unfold scanExponent at accepted
    split at accepted
    · exact present (Or.inl rfl) (Or.inr (Or.inr ⟨rfl, rfl⟩)) rfl accepted
    · exact present (Or.inr rfl) (Or.inr (Or.inr ⟨rfl, rfl⟩)) rfl accepted
    · exact present (Or.inl rfl) (Or.inr (Or.inl ⟨rfl, rfl⟩)) rfl accepted
    · exact present (Or.inr rfl) (Or.inr (Or.inl ⟨rfl, rfl⟩)) rfl accepted
    · exact present (Or.inl rfl) (Or.inl ⟨rfl, rfl⟩) rfl accepted
    · exact present (Or.inr rfl) (Or.inl ⟨rfl, rfl⟩) rfl accepted
    · rename_i notSmall notCapital
      cases accepted
      refine ⟨.absent, fun _ character isHead isMark => ?_, by simp⟩
      obtain ⟨more, rfl⟩ := List.head?_eq_some_iff.mp isHead
      rcases isMark with rfl | rfl
      · exact notSmall more rfl
      · exact notCapital more rfl
  · rintro ⟨isExponent, noMark, stops⟩
    cases isExponent with
    | absent =>
        unfold scanExponent
        split
        all_goals first
          | rfl
          | exact absurd (Or.inl rfl) (noMark rfl _ rfl)
          | exact absurd (Or.inr rfl) (noMark rfl _ rfl)
    | present isMark isSign nonempty areDigits =>
        rw [scanExponent_of_present isMark isSign nonempty areDigits]
        exact scanExponentDigits_eq_ok_iff.mpr
          ⟨_, rfl, nonempty, areDigits, stops (by simp), rfl⟩

theorem scanUnsigned_eq_ok {negative : Bool} {text rest : List Char} {numeral : Numeral} :
    scanUnsigned negative text = .ok (numeral, rest) ↔
      ∃ whole afterWhole fraction afterFraction exponent,
        scanWhole text = .ok (whole, afterWhole) ∧
        scanFraction afterWhole = .ok (fraction, afterFraction) ∧
        scanExponent afterFraction = .ok (exponent, rest) ∧
        numeral = ⟨negative, whole, fraction, exponent⟩ := by
  simp only [scanUnsigned, bind_eq_ok_iff, Prod.exists, pure, Except.pure, Except.ok.injEq,
    Prod.mk.injEq]
  constructor
  · rintro ⟨whole, afterWhole, wholeScan, fraction, afterFraction, fractionScan, exponent, after,
      exponentScan, rfl, rfl⟩
    exact ⟨whole, afterWhole, fraction, afterFraction, exponent, wholeScan, fractionScan,
      exponentScan, rfl⟩
  · rintro ⟨whole, afterWhole, fraction, afterFraction, exponent, wholeScan, fractionScan,
      exponentScan, rfl⟩
    exact ⟨whole, afterWhole, wholeScan, fraction, afterFraction, fractionScan, exponent, rest,
      exponentScan, rfl, rfl⟩

theorem ExponentAt.noDigit {text rest : List Char} {exponent : Option Exponent}
    (isExponent : ExponentAt text exponent rest) (stops : NoDigit rest) : NoDigit text := by
  cases isExponent with
  | absent => exact stops
  | present isMark isSign nonempty areDigits =>
      rcases isMark with rfl | rfl
      · exact noDigit_cons.mpr rfl
      · exact noDigit_cons.mpr rfl

theorem ExponentAt.noPoint {text rest : List Char} {exponent : Option Exponent}
    (isExponent : ExponentAt text exponent rest)
    (stops : exponent = none → rest.head? ≠ some '.') : text.head? ≠ some '.' := by
  cases isExponent with
  | absent => exact stops rfl
  | present isMark isSign nonempty areDigits => rcases isMark with rfl | rfl <;> simp

theorem FractionAt.noDigit {text rest : List Char} {fraction : List Nat}
    (isFraction : FractionAt text fraction rest) (stops : NoDigit rest) : NoDigit text := by
  rcases isFraction with ⟨-, rfl⟩ | ⟨-, -, rfl⟩
  · exact stops
  · exact noDigit_cons.mpr rfl

theorem scanUnsigned_eq_ok_iff {negative : Bool} {text rest : List Char} {numeral : Numeral} :
    scanUnsigned negative text = .ok (numeral, rest) ↔
      numeral.negative = negative ∧ UnsignedAt text numeral rest ∧ Stops numeral rest := by
  simp only [scanUnsigned_eq_ok, scanWhole_eq_ok_iff, scanFraction_eq_ok_iff,
    scanExponent_eq_ok_iff]
  constructor
  · rintro ⟨whole, afterWhole, fraction, afterFraction, exponent,
      ⟨nonempty, areDigits, noLeadingZero, wholeStops, rfl⟩,
      ⟨isFraction, noPoint, fractionStops⟩, ⟨isExponent, noMark, exponentStops⟩, rfl⟩
    refine ⟨rfl, ⟨nonempty, areDigits, noLeadingZero, _, _, rfl, isFraction, isExponent⟩, ?_,
      noMark, ?_⟩
    · by_cases noExponent : exponent = none
      · subst noExponent
        cases isExponent
        by_cases noFraction : fraction = []
        · rcases isFraction with ⟨-, rfl⟩ | ⟨some_, -⟩
          · exact wholeStops
          · exact absurd noFraction some_
        · exact fractionStops noFraction
      · exact exponentStops noExponent
    · rintro rfl noFraction
      cases isExponent
      exact noPoint noFraction
  · obtain ⟨numeralNegative, whole, fraction, exponent⟩ := numeral
    rintro ⟨rfl, ⟨nonempty, areDigits, noLeadingZero, afterWhole, afterFraction, rfl, isFraction,
      isExponent⟩, stops⟩
    dsimp only at *
    have fractionStops := isExponent.noDigit stops.noDigit
    exact ⟨whole, afterWhole, fraction, afterFraction, exponent,
      ⟨nonempty, areDigits, noLeadingZero, isFraction.noDigit fractionStops, rfl⟩,
      ⟨isFraction, fun noFraction => isExponent.noPoint fun absent => stops.noPoint absent noFraction,
        fun _ => fractionStops⟩,
      ⟨isExponent, stops.noMark, fun _ => stops.noDigit⟩, rfl⟩

/-- The scanner follows the grammar as far as the text goes on with a numeral. -/
theorem scan_eq_ok_iff {text rest : List Char} {numeral : Numeral} :
    scan text = .ok (numeral, rest) ↔ numeral.SpelledAt text rest ∧ Stops numeral rest := by
  constructor
  · intro accepted
    unfold scan at accepted
    split at accepted
    · rename_i unsigned
      obtain ⟨isNegative, isUnsigned, stops⟩ := scanUnsigned_eq_ok_iff.mp accepted
      exact ⟨⟨unsigned, by simp [isNegative], isUnsigned⟩, stops⟩
    · obtain ⟨isPositive, isUnsigned, stops⟩ := scanUnsigned_eq_ok_iff.mp accepted
      exact ⟨⟨text, by simp [isPositive], isUnsigned⟩, stops⟩
  · rintro ⟨⟨unsigned, rfl, isUnsigned⟩, stops⟩
    cases negative : numeral.negative with
    | true => exact scanUnsigned_eq_ok_iff.mpr ⟨negative, isUnsigned, stops⟩
    | false =>
        have scanned := scanUnsigned_eq_ok_iff.mpr ⟨negative, isUnsigned, stops⟩
        obtain ⟨afterWhole, -, textEq, -⟩ := isUnsigned.parts
        obtain ⟨digit, others, wholeEq⟩ := List.exists_cons_of_ne_nil isUnsigned.whole_ne_nil
        have areDigits := isUnsigned.areDigits
        rw [wholeEq] at areDigits textEq
        have notSign := (digitChar_ne_sign (areDigits_cons.mp areDigits).1).2
        rw [← scanned, textEq]
        simp [scan, notSign]

theorem SpelledAt.isStart {text rest : List Char} {numeral : Numeral}
    (spelled : numeral.SpelledAt text rest) :
    ∃ first more, text = first :: more ∧ isStart first = true := by
  obtain ⟨unsigned, rfl, isUnsigned⟩ := spelled
  cases numeral.negative with
  | true => exact ⟨'-', unsigned, rfl, rfl⟩
  | false =>
      obtain ⟨afterWhole, -, textEq, -⟩ := isUnsigned.parts
      obtain ⟨digit, others, wholeEq⟩ := List.exists_cons_of_ne_nil isUnsigned.whole_ne_nil
      have areDigits := isUnsigned.areDigits
      rw [wholeEq] at areDigits textEq
      refine ⟨digitChar digit, others.map digitChar ++ afterWhole, textEq, ?_⟩
      simp [Numeral.isStart, digitOf?_digitChar (areDigits_cons.mp areDigits).1]

theorem stops_cons {numeral : Numeral} {first : Char} {more : List Char}
    (noDigit : digitOf? first = none) (noMark : ¬ IsMark first) (noPoint : first ≠ '.') :
    Stops numeral (first :: more) where
  noDigit := noDigit_cons.mpr noDigit
  noMark := by simpa using fun _ => noMark
  noPoint := by simpa using fun _ _ => noPoint

/-- Blanks, and the characters between values, continue no numeral. -/
theorem stops_of_blanks {numeral : Numeral} {text rest : List Char} {character : Char}
    (blanks : Blanks text (character :: rest))
    (isDelimiter : character = ',' ∨ ∃ container : Container, character = container.closer) :
    Stops numeral text := by
  obtain ⟨first, more, rfl, blank | rfl⟩ := blanks.head
  · rcases isBlank_iff.mp blank with rfl | rfl | rfl | rfl <;>
      exact stops_cons rfl (by simp [IsMark]) (by decide)
  · rcases isDelimiter with rfl | ⟨container, rfl⟩
    · exact stops_cons rfl (by simp [IsMark]) (by decide)
    · cases container <;>
        exact stops_cons rfl (by simp [IsMark, Container.closer]) (by decide)

end PointRecords.Json.Numeral
