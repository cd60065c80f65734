import PointRecords.Json.Skip
import PointRecords.Proofs.Chain
import PointRecords.Proofs.Decimal.Integer

/-!
# The grammar of JSON

Every relation here takes a text and what is left of it: `Derives .value text rest`
says that `text` is a value followed by `rest`.  The grammar is recursive, and it
knows nothing of readers, of stacks, or of how far a numeral is taken.

Strings come in two kinds, for keys that matter and for text that is skipped; they
differ in what may follow a `\u`.
-/

namespace PointRecords.Json

open Decimal

/-- Blanks, and then the rest. -/
def Blanks (text rest : List Char) : Prop :=
  ∃ blanks, (∀ character ∈ blanks, isBlank character = true) ∧ text = blanks ++ rest

/-! ## Strings -/

def Quad (text : List Char) (code : Nat) (rest : List Char) : Prop :=
  ∃ first second third fourth a b c d, text = first :: second :: third :: fourth :: rest ∧
    Text.hexDigit? first = some a ∧ Text.hexDigit? second = some b ∧
    Text.hexDigit? third = some c ∧ Text.hexDigit? fourth = some d ∧
    code = ((a * 16 + b) * 16 + c) * 16 + d

/-- A code unit that is no surrogate, or two that make a pair. -/
inductive PairedEscape : List Char → Char → List Char → Prop
  | unit {text rest : List Char} {code : Nat} (quad : Quad text code rest)
      (notHigh : isHighSurrogate code = false) (notLow : isLowSurrogate code = false) :
      PairedEscape text (Char.ofNat code) rest
  | pair {text middle rest : List Char} {high low : Nat}
      (highQuad : Quad text high ('\\' :: 'u' :: middle)) (lowQuad : Quad middle low rest)
      (isHigh : isHighSurrogate high = true) (isLow : isLowSurrogate low = true) :
      PairedEscape text
        (Char.ofNat (0x10000 + (high - 0xd800) * 0x400 + (low - 0xdc00))) rest

def LooseEscape (text : List Char) (character : Char) (rest : List Char) : Prop :=
  ∃ code, Quad text code rest ∧ character = Char.ofNat code

/-- The characters of a string after its opening quotation mark. -/
inductive StringAt (escape : List Char → Char → List Char → Prop) :
    List Char → List Char → List Char → Prop
  | close {rest : List Char} : StringAt escape ('"' :: rest) [] rest
  | plain {text characters rest : List Char} {character : Char} (notQuote : character ≠ '"')
      (notBackslash : character ≠ '\\') (notControl : 0x20 ≤ character.toNat)
      (more : StringAt escape text characters rest) :
      StringAt escape (character :: text) (character :: characters) rest
  | short {text characters rest : List Char} {mark character : Char}
      (isEscape : escaped? mark = some character) (more : StringAt escape text characters rest) :
      StringAt escape ('\\' :: mark :: text) (character :: characters) rest
  | unicode {text after characters rest : List Char} {character : Char}
      (isEscape : escape text character after) (more : StringAt escape after characters rest) :
      StringAt escape ('\\' :: 'u' :: text) (character :: characters) rest

/-! ## Numerals -/

namespace Numeral

def FractionAt (text : List Char) (fraction : List Nat) (rest : List Char) : Prop :=
  fraction = [] ∧ text = rest ∨
    fraction ≠ [] ∧ AreDigits fraction ∧ text = '.' :: (fraction.map digitChar ++ rest)

/-- An exponent behind its mark, or none. -/
inductive ExponentAt : List Char → Option Exponent → List Char → Prop
  | absent {rest : List Char} : ExponentAt rest none rest
  | present {sign rest : List Char} {mark : Char} {negative : Bool} {digitList : List Nat}
      (isMark : mark = 'e' ∨ mark = 'E') (isSign : IsSign sign negative)
      (nonempty : digitList ≠ []) (areDigits : AreDigits digitList) :
      ExponentAt (mark :: (sign ++ (digitList.map digitChar ++ rest)))
        (some ⟨negative, digitList⟩) rest

/-- A numeral without its sign. -/
structure UnsignedAt (text : List Char) (numeral : Numeral) (rest : List Char) : Prop where
  whole_ne_nil : numeral.whole ≠ []
  areDigits : AreDigits numeral.whole
  noLeadingZero : NoLeadingZero numeral.whole
  parts : ∃ afterWhole afterFraction, text = numeral.whole.map digitChar ++ afterWhole ∧
    FractionAt afterWhole numeral.fraction afterFraction ∧
    ExponentAt afterFraction numeral.exponent rest

def SpelledAt (text : List Char) (numeral : Numeral) (rest : List Char) : Prop :=
  ∃ unsigned, text = (if numeral.negative then ['-'] else []) ++ unsigned ∧
    UnsignedAt unsigned numeral rest

end Numeral

/-! ## Values -/

namespace Container

def opener : Container → Char
  | .list => '['
  | .object => '\x7b'

end Container

/-- What stands before the value of an item: blanks in a list, a key and a colon in
an object. -/
def Lead : Container → List Char → List Char → Prop
  | .list, text, rest => Blanks text rest
  | .object, text, rest =>
      ∃ inKey key afterKey afterColon, Blanks text ('"' :: inKey) ∧
        StringAt LooseEscape inKey key afterKey ∧ Blanks afterKey (':' :: afterColon) ∧
        Blanks afterColon rest

/-- A value, or the items of a container up to its closing bracket. -/
inductive Phrase
  | value
  | items (container : Container)

/-- The grammar of values. -/
inductive Derives : Phrase → List Char → List Char → Prop
  | null {rest : List Char} : Derives .value ('n' :: 'u' :: 'l' :: 'l' :: rest) rest
  | yes {rest : List Char} : Derives .value ('t' :: 'r' :: 'u' :: 'e' :: rest) rest
  | no {rest : List Char} : Derives .value ('f' :: 'a' :: 'l' :: 's' :: 'e' :: rest) rest
  | numeral {text rest : List Char} {numeral : Numeral}
      (spelled : numeral.SpelledAt text rest) : Derives .value text rest
  | string {text characters rest : List Char}
      (isString : StringAt LooseEscape text characters rest) : Derives .value ('"' :: text) rest
  | empty {container : Container} {text rest : List Char}
      (blanks : Blanks text (container.closer :: rest)) :
      Derives .value (container.opener :: text) rest
  | full {container : Container} {text rest : List Char}
      (items : Derives (.items container) text rest) :
      Derives .value (container.opener :: text) rest
  | last {container : Container} {text valueText afterValue rest : List Char}
      (lead : Lead container text valueText) (value : Derives .value valueText afterValue)
      (closed : Blanks afterValue (container.closer :: rest)) :
      Derives (.items container) text rest
  | more {container : Container} {text valueText afterValue afterComma rest : List Char}
      (lead : Lead container text valueText) (value : Derives .value valueText afterValue)
      (comma : Blanks afterValue (',' :: afterComma))
      (items : Derives (.items container) afterComma rest) :
      Derives (.items container) text rest

/-! ## Blanks -/

theorem isBlank_iff {character : Char} :
    isBlank character = true ↔
      character = ' ' ∨ character = '\n' ∨ character = '\t' ∨ character = '\r' := by
  simp [isBlank, or_assoc]

theorem blanks_refl (text : List Char) : Blanks text text :=
  ⟨[], by simp, rfl⟩

theorem Blanks.trans {first second third : List Char} (front : Blanks first second)
    (back : Blanks second third) : Blanks first third := by
  obtain ⟨frontBlanks, frontAll, rfl⟩ := front
  obtain ⟨backBlanks, backAll, rfl⟩ := back
  refine ⟨frontBlanks ++ backBlanks, ?_, by rw [List.append_assoc]⟩
  intro character member
  rcases List.mem_append.mp member with inFront | inBack
  · exact frontAll character inFront
  · exact backAll character inBack

theorem blanks_skipBlank (text : List Char) : Blanks text (skipBlank text) := by
  refine ⟨text.takeWhile isBlank, ?_, (List.takeWhile_append_dropWhile).symm⟩
  intro character member
  exact List.mem_takeWhile_imp member

theorem skipBlank_eq_of_blanks {text rest : List Char} (blanks : Blanks text rest) :
    skipBlank text = skipBlank rest := by
  obtain ⟨front, all, rfl⟩ := blanks
  induction front with
  | nil => rfl
  | cons character front ih =>
      have isBlank := all character (by simp)
      rw [List.cons_append, skipBlank, List.dropWhile_cons_of_pos isBlank]
      exact ih fun other member => all other (by simp [member])

@[simp]
theorem skipBlank_cons {character : Char} {text : List Char} (notBlank : isBlank character = false) :
    skipBlank (character :: text) = character :: text := by
  simp [skipBlank, notBlank]

/-- Blanks up to a character that is none are all that is skipped. -/
theorem skipBlank_eq_iff {character : Char} {text rest : List Char}
    (notBlank : isBlank character = false) :
    skipBlank text = character :: rest ↔ Blanks text (character :: rest) := by
  constructor
  · intro split
    rw [← split]
    exact blanks_skipBlank text
  · intro blanks
    rw [skipBlank_eq_of_blanks blanks, skipBlank_cons notBlank]

theorem not_isBlank_of_skipBlank {character : Char} {text rest : List Char}
    (split : skipBlank text = character :: rest) : isBlank character = false := by
  have head := List.head?_dropWhile_not isBlank text
  unfold skipBlank at split
  rw [split] at head
  simpa using head

/-- A text that is left over is a blank character, the given one, or empty. -/
theorem Blanks.head {text rest : List Char} {character : Char}
    (blanks : Blanks text (character :: rest)) :
    ∃ first more, text = first :: more ∧ (isBlank first = true ∨ first = character) := by
  obtain ⟨front, all, rfl⟩ := blanks
  cases front with
  | nil => exact ⟨character, rest, rfl, Or.inr rfl⟩
  | cons first more => exact ⟨first, more ++ character :: rest, rfl, Or.inl (all first (by simp))⟩

end PointRecords.Json
