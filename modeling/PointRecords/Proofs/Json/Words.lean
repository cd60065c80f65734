import PointRecords.Proofs.Json.Grammar

/-!
# Words of the grammar

The relations of the grammar leave the rest of a text over.  Which rest that is plays no
part: a phrase is a word that stands before the rest, and it stands before any other rest
as well.  So the grammar of values is a set of words.
-/

namespace PointRecords.Json

/-- A relation between texts and their rests that takes a word off the front, whatever
follows the word. -/
def IsFramed (phrase : List Char → List Char → Prop) : Prop :=
  ∀ text rest, phrase text rest → ∃ word, text = word ++ rest ∧ ∀ other, phrase (word ++ other) other

theorem isFramed_blanks : IsFramed Blanks := by
  rintro text rest ⟨blanks, all, rfl⟩
  exact ⟨blanks, rfl, fun other => ⟨blanks, all, rfl⟩⟩

/-- Blanks and the character behind them are a word, too. -/
theorem isFramed_blanks_cons (character : Char) :
    IsFramed fun text rest => Blanks text (character :: rest) := by
  rintro text rest ⟨blanks, all, rfl⟩
  exact ⟨blanks ++ [character], by simp, fun other => ⟨blanks, all, by simp⟩⟩

/-- Two words after one another are a word. -/
theorem IsFramed.comp {first second : List Char → List Char → Prop} (framedFirst : IsFramed first)
    (framedSecond : IsFramed second) :
    IsFramed fun text rest => ∃ middle, first text middle ∧ second middle rest := by
  rintro text rest ⟨middle, isFirst, isSecond⟩
  obtain ⟨firstWord, rfl, firstAlone⟩ := framedFirst text middle isFirst
  obtain ⟨secondWord, rfl, secondAlone⟩ := framedSecond _ _ isSecond
  refine ⟨firstWord ++ secondWord, (List.append_assoc _ _ _).symm, fun other => ?_⟩
  rw [List.append_assoc]
  exact ⟨secondWord ++ other, firstAlone _, secondAlone other⟩

/-! ## Strings -/

theorem isFramed_quad (code : Nat) : IsFramed fun text rest => Quad text code rest := by
  rintro text rest ⟨first, second, third, fourth, a, b, c, d, rfl, digits⟩
  exact ⟨[first, second, third, fourth], rfl,
    fun other => ⟨first, second, third, fourth, a, b, c, d, rfl, digits⟩⟩

theorem isFramed_looseEscape (character : Char) :
    IsFramed fun text rest => LooseEscape text character rest := by
  rintro text rest ⟨code, quad, isCharacter⟩
  obtain ⟨word, textEq, quadAlone⟩ := isFramed_quad code text rest quad
  exact ⟨word, textEq, fun other => ⟨code, quadAlone other, isCharacter⟩⟩

theorem isFramed_string (characters : List Char) :
    IsFramed fun text rest => StringAt LooseEscape text characters rest := by
  intro text rest isString
  induction isString with
  | close => exact ⟨['"'], rfl, fun other => .close⟩
  | @plain _ _ _ character notQuote notBackslash notControl _ ih =>
      obtain ⟨word, rfl, alone⟩ := ih
      exact ⟨character :: word, rfl,
        fun other => .plain notQuote notBackslash notControl (alone other)⟩
  | @short _ _ _ mark _ isEscape _ ih =>
      obtain ⟨word, rfl, alone⟩ := ih
      exact ⟨'\\' :: mark :: word, rfl, fun other => .short isEscape (alone other)⟩
  | @unicode _ _ _ _ character isEscape _ ih =>
      obtain ⟨word, rfl, alone⟩ := ih
      obtain ⟨escape, rfl, escapeAlone⟩ := isFramed_looseEscape character _ _ isEscape
      refine ⟨'\\' :: 'u' :: (escape ++ word), by simp, fun other => ?_⟩
      rw [List.cons_append, List.cons_append, List.append_assoc]
      exact .unicode (escapeAlone _) (alone other)

/-! ## Numerals -/

namespace Numeral

theorem isFramed_exponent (exponent : Option Exponent) :
    IsFramed fun text rest => ExponentAt text exponent rest := by
  intro text rest isExponent
  cases isExponent with
  | absent => exact ⟨[], rfl, fun other => .absent⟩
  | @present sign _ mark _ digitList isMark isSign nonempty areDigits =>
      refine ⟨mark :: (sign ++ digitList.map Decimal.digitChar), by simp, fun other => ?_⟩
      rw [List.cons_append, List.append_assoc]
      exact .present isMark isSign nonempty areDigits

theorem isFramed_fraction (fraction : List Nat) :
    IsFramed fun text rest => FractionAt text fraction rest := by
  rintro text rest (⟨isEmpty, rfl⟩ | ⟨nonempty, areDigits, rfl⟩)
  · exact ⟨[], rfl, fun other => Or.inl ⟨isEmpty, rfl⟩⟩
  · exact ⟨'.' :: fraction.map Decimal.digitChar, rfl, fun other => Or.inr ⟨nonempty, areDigits, rfl⟩⟩

theorem isFramed_spelled (numeral : Numeral) : IsFramed numeral.SpelledAt := by
  rintro text rest ⟨unsigned, rfl, nonempty, areDigits, noLeadingZero, afterWhole, afterFraction,
    rfl, isFraction, isExponent⟩
  have framed := (isFramed_fraction numeral.fraction).comp (isFramed_exponent numeral.exponent)
  obtain ⟨word, rfl, alone⟩ := framed afterWhole rest ⟨afterFraction, isFraction, isExponent⟩
  refine ⟨(if numeral.negative then ['-'] else []) ++ (numeral.whole.map Decimal.digitChar ++ word),
    by simp, fun other => ?_⟩
  obtain ⟨middle, isFraction, isExponent⟩ := alone other
  exact ⟨_, by rw [List.append_assoc], nonempty, areDigits, noLeadingZero, word ++ other, middle,
    by rw [List.append_assoc], isFraction, isExponent⟩

end Numeral

/-! ## Values -/

theorem isFramed_lead (container : Container) : IsFramed (Lead container) := by
  cases container with
  | list => exact isFramed_blanks
  | object =>
      rintro text rest ⟨inKey, key, afterKey, afterColon, quote, isString, colon, blanks⟩
      have framed := (isFramed_blanks_cons '"').comp
        ((isFramed_string key).comp ((isFramed_blanks_cons ':').comp isFramed_blanks))
      obtain ⟨word, textEq, alone⟩ :=
        framed text rest ⟨inKey, quote, afterKey, isString, afterColon, colon, blanks⟩
      refine ⟨word, textEq, fun other => ?_⟩
      obtain ⟨inKey, quote, afterKey, isString, afterColon, colon, blanks⟩ := alone other
      exact ⟨inKey, key, afterKey, afterColon, quote, isString, colon, blanks⟩

theorem isFramed_derives (phrase : Phrase) : IsFramed (Derives phrase) := by
  intro text rest derives
  induction derives with
  | null => exact ⟨['n', 'u', 'l', 'l'], rfl, fun other => .null⟩
  | yes => exact ⟨['t', 'r', 'u', 'e'], rfl, fun other => .yes⟩
  | no => exact ⟨['f', 'a', 'l', 's', 'e'], rfl, fun other => .no⟩
  | @numeral _ _ numeral spelled =>
      obtain ⟨word, textEq, alone⟩ := Numeral.isFramed_spelled numeral _ _ spelled
      exact ⟨word, textEq, fun other => .numeral (alone other)⟩
  | @string _ characters _ isString =>
      obtain ⟨word, rfl, alone⟩ := isFramed_string characters _ _ isString
      exact ⟨'"' :: word, rfl, fun other => .string (alone other)⟩
  | @empty container _ _ blanks =>
      obtain ⟨word, rfl, alone⟩ := isFramed_blanks_cons container.closer _ _ blanks
      exact ⟨container.opener :: word, rfl, fun other => .empty (alone other)⟩
  | @full container _ _ _ ih =>
      obtain ⟨word, rfl, alone⟩ := ih
      exact ⟨container.opener :: word, rfl, fun other => .full (alone other)⟩
  | @last container _ _ _ _ lead _ closed ih =>
      obtain ⟨leadWord, rfl, leadAlone⟩ := isFramed_lead container _ _ lead
      obtain ⟨valueWord, rfl, valueAlone⟩ := ih
      obtain ⟨closing, rfl, closedAlone⟩ := isFramed_blanks_cons container.closer _ _ closed
      refine ⟨leadWord ++ (valueWord ++ closing), by simp, fun other => ?_⟩
      rw [List.append_assoc, List.append_assoc]
      exact .last (leadAlone _) (valueAlone _) (closedAlone other)
  | @more container _ _ _ _ _ lead _ comma _ valueIh itemsIh =>
      obtain ⟨leadWord, rfl, leadAlone⟩ := isFramed_lead container _ _ lead
      obtain ⟨valueWord, rfl, valueAlone⟩ := valueIh
      obtain ⟨commaWord, rfl, commaAlone⟩ := isFramed_blanks_cons ',' _ _ comma
      obtain ⟨itemsWord, rfl, itemsAlone⟩ := itemsIh
      refine ⟨leadWord ++ (valueWord ++ (commaWord ++ itemsWord)), by simp, fun other => ?_⟩
      rw [List.append_assoc, List.append_assoc, List.append_assoc]
      exact .more (leadAlone _) (valueAlone _) (commaAlone _) (itemsAlone other)

/-- Before a rest stands what stands alone as well. -/
theorem IsFramed.append_iff {phrase : List Char → List Char → Prop} (framed : IsFramed phrase)
    {word rest : List Char} : phrase (word ++ rest) rest ↔ phrase word [] := by
  constructor
  · intro before
    obtain ⟨other, wordEq, alone⟩ := framed _ _ before
    rw [List.append_cancel_right wordEq, ← List.append_nil other]
    exact alone []
  · intro alone
    obtain ⟨other, rfl, before⟩ := framed _ _ alone
    rw [List.append_nil]
    exact before rest

/-- A word of the grammar of values. -/
def IsValue (word : List Char) : Prop := Derives .value word []

/-- A word that spells a number. -/
def IsNumber (word : List Char) : Prop := ∃ numeral : Numeral, numeral.SpelledAt word []

end PointRecords.Json
