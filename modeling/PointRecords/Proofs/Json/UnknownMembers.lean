import PointRecords.Proofs.Json.Records
import PointRecords.Proofs.Json.Words

/-!
# Unknown members are skipped exactly

The value of a member with an unknown key is skipped by a loop that keeps the open
containers on a stack.  The loop comes to its end within as many rounds as the text has
characters, and one more.  It passes over the blanks and one word of the grammar; if that
word is a number, it is one that ends there, since the loop never gives characters back.
-/

namespace PointRecords.Json

variable {α : Type}

/-! ## The loop ends -/

/-- The loop of the skipper, stopped after a number of rounds: nothing, if it has not come
to its end by then. -/
def skipRounds : Nat → List Container → List Char → Option (Except Fault (List Char))
  | 0, _, _ => none
  | rounds + 1, stack, text =>
      match skipStep stack text with
      | .error fault => some (.error fault)
      | .ok ([], rest) => some (.ok rest)
      | .ok (container :: outer, rest) => skipRounds rounds (container :: outer) rest

/-- Every round takes a character, at least, off the text. -/
theorem skipRounds_eq {rounds : Nat} {stack : List Container} {text : List Char}
    (enough : text.length < rounds) : skipRounds rounds stack text = some (skipWithin stack text) := by
  induction rounds generalizing stack text with
  | zero => exact absurd enough (Nat.not_lt_zero _)
  | succ rounds ih =>
      rw [skipRounds, skipWithin_eq]
      cases step : skipStep stack text with
      | error fault => rfl
      | ok result =>
          obtain ⟨_ | ⟨container, outer⟩, rest⟩ := result
          · rfl
          · have shorter := skipStep_shorter step
            exact ih (by omega)

/-! ## Numbers that end -/

/-- A number ends before a rest: no digit follows it, and with the character that follows
it does not begin a longer number. -/
def EndsBefore (number rest : List Char) : Prop :=
  ∀ next ∈ rest.head?, ¬ ('0' ≤ next ∧ next ≤ '9') ∧
    ∀ more, ¬ IsNumber (number ++ next :: more)

namespace Numeral

open Decimal

theorem UnsignedAt.withExponent {text rest after : List Char} {numeral : Numeral}
    {exponent : Option Exponent} (isUnsigned : UnsignedAt text numeral rest)
    (absent : numeral.exponent = none) (isExponent : ExponentAt rest exponent after) :
    UnsignedAt text { numeral with exponent := exponent } after := by
  obtain ⟨nonempty, areDigits, noLeadingZero, afterWhole, afterFraction, textEq, isFraction,
    noExponent⟩ := isUnsigned
  rw [absent] at noExponent
  cases noExponent
  exact ⟨nonempty, areDigits, noLeadingZero, afterWhole, _, textEq, isFraction, isExponent⟩

theorem UnsignedAt.withFraction {text rest after : List Char} {numeral : Numeral}
    {fraction : List Nat} (isUnsigned : UnsignedAt text numeral rest)
    (noExponent : numeral.exponent = none) (absent : numeral.fraction = [])
    (isFraction : FractionAt rest fraction after) :
    UnsignedAt text { numeral with fraction := fraction } after := by
  obtain ⟨nonempty, areDigits, noLeadingZero, afterWhole, afterFraction, textEq, noFraction,
    isExponent⟩ := isUnsigned
  rw [noExponent] at isExponent
  cases isExponent
  rcases noFraction with ⟨-, rfl⟩ | ⟨someFraction, -⟩
  · exact ⟨nonempty, areDigits, noLeadingZero, _, after, textEq, isFraction,
      noExponent ▸ .absent⟩
  · exact absurd absent someFraction

/-- A number that ends before a rest is not continued by it.  What is spelled alone is
spelled before the character that follows too, so a mark or a point there would begin an
exponent or a fraction. -/
theorem SpelledAt.stops {numeral : Numeral} {number rest : List Char}
    (spelled : numeral.SpelledAt number []) (ends : EndsBefore number rest) :
    numeral.Stops rest := by
  have zeroDigit : AreDigits [0] := by simp
  have before : ∀ next more, ∃ unsigned, number ++ next :: more =
      (if numeral.negative then ['-'] else []) ++ unsigned ∧
        UnsignedAt unsigned numeral (next :: more) :=
    fun next more => (isFramed_spelled numeral).append_iff.mpr spelled
  refine ⟨fun next isNext => ?_, fun noExponent next isNext isMark => ?_,
    fun noExponent noFraction isPoint => ?_⟩
  · have noDigit := (ends next isNext).1
    simp [digitOf?, noDigit]
  · obtain ⟨unsigned, textEq, isUnsigned⟩ := before next ['0']
    have isExponent : ExponentAt [next, '0'] (some ⟨false, [0]⟩) [] :=
      .present isMark (Or.inl ⟨rfl, rfl⟩) (by simp) zeroDigit
    exact (ends next isNext).2 ['0'] ⟨{ numeral with exponent := some ⟨false, [0]⟩ }, unsigned,
      textEq, isUnsigned.withExponent noExponent isExponent⟩
  · obtain ⟨unsigned, textEq, isUnsigned⟩ := before '.' ['0']
    have isFraction : FractionAt ['.', '0'] [0] [] := Or.inr ⟨by simp, zeroDigit, rfl⟩
    exact (ends '.' isPoint).2 ['0'] ⟨{ numeral with fraction := [0] }, unsigned, textEq,
      isUnsigned.withFraction noExponent noFraction isFraction⟩

/-- The scanner takes one number only, so a number that it stops behind begins no longer
one. -/
theorem Stops.endsBefore {numeral : Numeral} {number rest : List Char} (stops : numeral.Stops rest)
    (spelled : numeral.SpelledAt number []) : EndsBefore number rest := by
  intro next isNext
  obtain ⟨tail, rfl⟩ := List.head?_eq_some_iff.mp isNext
  refine ⟨fun isDigit => ?_, ?_⟩
  · have noDigit := stops.noDigit next isNext
    simp [digitOf?, isDigit] at noDigit
  · rintro more ⟨longer, longerSpelled⟩
    have stopsMore : numeral.Stops (next :: more) :=
      ⟨stops.noDigit, stops.noMark, stops.noPoint⟩
    have scanned := scan_eq_ok_iff.mpr
      ⟨(isFramed_spelled numeral).append_iff.mpr spelled, stopsMore⟩
    have stopsEnd : longer.Stops [] := ⟨by simp, by simp, by simp⟩
    rw [scan_eq_ok_iff.mpr ⟨longerSpelled, stopsEnd⟩] at scanned
    cases scanned

end Numeral

theorem isGreedy_append_iff {word rest : List Char} :
    IsGreedy (word ++ rest) rest ↔ (IsNumber word → EndsBefore word rest) := by
  constructor
  · rintro isGreedy ⟨numeral, spelled⟩
    obtain ⟨whole, wholeSpelled, stops⟩ :=
      isGreedy numeral ((Numeral.isFramed_spelled numeral).append_iff.mpr spelled)
    exact stops.endsBefore ((Numeral.isFramed_spelled whole).append_iff.mp wholeSpelled)
  · intro ends numeral spelledBefore
    have spelled := (Numeral.isFramed_spelled numeral).append_iff.mp spelledBefore
    exact ⟨numeral, spelledBefore, spelled.stops (ends ⟨numeral, spelled⟩)⟩

/-! ## What is skipped -/

/-- Blanks and a word of the grammar are skipped, and nothing else. -/
theorem skipValue_eq_ok_iff_exists_word {text rest : List Char} :
    skipValue text = .ok rest ↔ ∃ blanks word, (∀ character ∈ blanks, isBlank character = true) ∧
      text = blanks ++ (word ++ rest) ∧ IsValue word ∧ (IsNumber word → EndsBefore word rest) := by
  rw [skipValue_eq_ok_iff]
  constructor
  · rintro ⟨valueText, ⟨blanks, all, rfl⟩, value, isGreedy⟩
    obtain ⟨word, rfl, -⟩ := isFramed_derives .value _ _ value
    exact ⟨blanks, word, all, rfl, (isFramed_derives .value).append_iff.mp value,
      isGreedy_append_iff.mp isGreedy⟩
  · rintro ⟨blanks, word, all, rfl, isValue, ends⟩
    exact ⟨word ++ rest, ⟨blanks, all, rfl⟩, (isFramed_derives .value).append_iff.mpr isValue,
      isGreedy_append_iff.mpr ends⟩

theorem Shape.place?_eq_none {shape : Shape α} {key : List Char}
    (unknown : ∀ place, key ≠ (shape.names.get place).toList) : shape.place? key = none := by
  have notFirst : key ≠ shape.names.first.toList := unknown .first
  have notSecond : key ≠ shape.names.second.toList := unknown .second
  have notThird : key ≠ shape.names.third.toList := unknown .third
  rw [place?, if_neg notFirst, if_neg notSecond, if_neg notThird]

theorem readMember_of_unknown {shape : Shape α} {key afterKey text : List Char}
    (found : Triple (Option α)) (unknown : ∀ place, key ≠ (shape.names.get place).toList)
    (colon : Blanks afterKey (':' :: text)) :
    readMember shape found key afterKey = (skipValue text).map fun rest => (found, rest) := by
  rw [readMember, Shape.place?_eq_none unknown, readColon_eq_ok_iff.mpr colon]
  dsimp only
  cases skipValue text with
  | error fault => rfl
  | ok rest => rfl

/-- Of every text behind the colon of an unknown key the skipper comes to an end, and it
succeeds exactly if, after blanks, a word of the grammar of values stands there, which
must not be a number that goes on.  Then that word is what it takes off, and what was
found of the record before is kept. -/
theorem unknown_member_skipped (text : List Char) :
    skipRounds (text.length + 1) [] text = some (skipValue text) ∧
    (∀ rest, skipValue text = .ok rest ↔
      ∃ blanks word, (∀ character ∈ blanks, isBlank character = true) ∧
        text = blanks ++ (word ++ rest) ∧ IsValue word ∧
        (IsNumber word → EndsBefore word rest)) ∧
    ∀ {α : Type} (shape : Shape α) (found : Triple (Option α)) (key afterKey : List Char),
      (∀ place, key ≠ (shape.names.get place).toList) → Blanks afterKey (':' :: text) →
        readMember shape found key afterKey = (skipValue text).map fun rest => (found, rest) :=
  ⟨skipRounds_eq (Nat.lt_succ_self _), fun _ => skipValue_eq_ok_iff_exists_word,
    fun _ found _ _ unknown colon => readMember_of_unknown found unknown colon⟩

/-- A list with an object in it, whose key has a surrogate alone, and the next member. -/
def nestedValue : List Char :=
  " [[-0.5e+1,\x7b\"\\ud800\":[]\x7d],null] ,\"r\":1\x7d".toList

theorem unknown_member_skipped_nested :
    (∀ place, "alpha".toList ≠ (colourShape.names.get place).toList) ∧
      Blanks (' ' :: ':' :: nestedValue) (':' :: nestedValue) ∧
      readMember colourShape ⟨none, none, none⟩ "alpha".toList (' ' :: ':' :: nestedValue) =
        .ok (⟨none, none, none⟩, " ,\"r\":1\x7d".toList) := by
  have unknown : ∀ place, "alpha".toList ≠ (colourShape.names.get place).toList := by
    intro place
    cases place <;> decide
  have blank : ∀ text, Blanks (' ' :: text) text := fun text => ⟨[' '], by simp [isBlank], rfl⟩
  have colon := blank (':' :: nestedValue)
  obtain ⟨-, -, skipped⟩ := unknown_member_skipped nestedValue
  refine ⟨unknown, colon, ?_⟩
  rw [skipped colourShape _ _ _ unknown colon]
  have value : (skipValue nestedValue).toOption = some " ,\"r\":1\x7d".toList := by decide +kernel
  cases isValue : skipValue nestedValue with
  | error fault =>
      rw [isValue] at value
      cases value
  | ok rest =>
      rw [isValue] at value
      cases value
      rfl

end PointRecords.Json
