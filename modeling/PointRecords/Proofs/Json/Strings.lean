import PointRecords.Proofs.Json.Grammar

/-!
# Reading strings

The reader of strings finds exactly the characters that the grammar gives to a
text, for either rule of `\u` escapes, and stops behind the closing quotation mark.
-/

namespace PointRecords.Json

theorem hexQuad_eq_ok_iff {text rest : List Char} {code : Nat} :
    hexQuad text = .ok (code, rest) ↔ Quad text code rest := by
  constructor
  · intro accepted
    unfold hexQuad at accepted
    split at accepted
    · split at accepted
      · rename_i isFirst isSecond isThird isFourth
        cases accepted
        exact ⟨_, _, _, _, _, _, _, _, rfl, isFirst, isSecond, isThird, isFourth, rfl⟩
      · cases accepted
    · cases accepted
  · rintro ⟨first, second, third, fourth, a, b, c, d, rfl, isFirst, isSecond, isThird, isFourth,
      rfl⟩
    simp [hexQuad, isFirst, isSecond, isThird, isFourth]

theorem readUnpaired_eq_ok_iff {text rest : List Char} {character : Char} :
    readUnpaired text = .ok (character, rest) ↔ LooseEscape text character rest := by
  simp only [LooseEscape, ← hexQuad_eq_ok_iff, readUnpaired]
  cases hexQuad text with
  | error fault => simp
  | ok result =>
      obtain ⟨code, after⟩ := result
      simp only [Except.ok.injEq, Prod.mk.injEq]
      constructor
      · rintro ⟨rfl, rfl⟩
        exact ⟨code, ⟨rfl, rfl⟩, rfl⟩
      · rintro ⟨other, ⟨rfl, rfl⟩, rfl⟩
        exact ⟨rfl, rfl⟩

theorem not_isLowSurrogate {code : Nat} (isHigh : isHighSurrogate code = true) :
    isLowSurrogate code = false := by
  simp only [isLowSurrogate, isHighSurrogate, Bool.and_eq_true, decide_eq_true_eq,
    Bool.and_eq_false_iff, decide_eq_false_iff_not] at *
  omega

theorem readPaired_eq_ok_iff {text rest : List Char} {character : Char} :
    readPaired text = .ok (character, rest) ↔ PairedEscape text character rest := by
  constructor
  · intro accepted
    unfold readPaired at accepted
    split at accepted
    · cases accepted
    · rename_i code after quad
      rw [hexQuad_eq_ok_iff] at quad
      split at accepted
      · cases accepted
      · rename_i notLow
        rw [Bool.not_eq_true] at notLow
        split at accepted
        · rename_i isHigh
          split at accepted
          · unfold readLowSurrogate at accepted
            split at accepted
            · cases accepted
            · rename_i low lowAfter lowQuad
              rw [hexQuad_eq_ok_iff] at lowQuad
              split at accepted
              · rename_i isLow
                simp only [Except.ok.injEq, Prod.mk.injEq] at accepted
                obtain ⟨isCharacter, rfl⟩ := accepted
                rw [← isCharacter]
                exact .pair quad lowQuad isHigh isLow
              · cases accepted
          · cases accepted
          · cases accepted
          · cases accepted
        · rename_i notHigh
          rw [Bool.not_eq_true] at notHigh
          cases accepted
          exact .unit quad notHigh notLow
  · intro escape
    cases escape with
    | unit quad notHigh notLow =>
        simp [readPaired, hexQuad_eq_ok_iff.mpr quad, notHigh, notLow]
    | pair highQuad lowQuad isHigh isLow =>
        simp [readPaired, readLowSurrogate, hexQuad_eq_ok_iff.mpr highQuad,
          hexQuad_eq_ok_iff.mpr lowQuad, isHigh, not_isLowSurrogate isHigh, isLow]

/-- A rule of escapes reads what a relation says. -/
def UnicodeRule.Reads (rule : UnicodeRule) (escape : List Char → Char → List Char → Prop) : Prop :=
  ∀ text character rest, rule.read text = .ok (character, rest) ↔ escape text character rest

theorem reads_paired : UnicodeRule.paired.Reads PairedEscape :=
  fun _ _ _ => readPaired_eq_ok_iff

theorem reads_unpaired : UnicodeRule.unpaired.Reads LooseEscape :=
  fun _ _ _ => readUnpaired_eq_ok_iff

section

variable {rule : UnicodeRule} {text after rest characters : List Char} {character : Char}

theorem readString_of_close (piece : readPiece rule text = .ok (none, rest)) :
    readString rule text = .ok ([], rest) := by
  rw [readString]
  split <;> simp_all

theorem readString_of_piece (piece : readPiece rule text = .ok (some character, after))
    (more : readString rule after = .ok (characters, rest)) :
    readString rule text = .ok (character :: characters, rest) := by
  rw [readString]
  split <;> simp_all

theorem readPiece_plain (notQuote : character ≠ '"') (notBackslash : character ≠ '\\')
    (notControl : 0x20 ≤ character.toNat) :
    readPiece rule (character :: rest) = .ok (some character, rest) := by
  have notControl := not_lt.mpr notControl
  simp [readPiece, notBackslash, notControl]

theorem readPiece_short {mark : Char} (isEscape : escaped? mark = some character) :
    readPiece rule ('\\' :: mark :: rest) = .ok (some character, rest) := by
  have notUnicode : mark ≠ 'u' := by
    rintro rfl
    cases isEscape
  simp [readPiece, isEscape]

variable {escape : List Char → Char → List Char → Prop}

/-- One piece of a string, and then the rest of it. -/
theorem stringAt_of_readPiece (reads : rule.Reads escape)
    (piece : readPiece rule text = .ok (some character, after))
    (more : StringAt escape after characters rest) :
    StringAt escape text (character :: characters) rest := by
  unfold readPiece at piece
  split at piece
  · cases piece
  · cases piece
  · cases piece
  · split at piece
    · cases piece
    · rename_i read
      cases piece
      exact .unicode ((reads _ _ _).mp read) more
  · split at piece
    · rename_i isEscape
      cases piece
      exact .short isEscape more
    · cases piece
  · rename_i first others notQuote notAlone notUnicode notEscape
    split at piece
    · cases piece
    · rename_i notControl
      cases piece
      refine .plain notQuote ?_ (by omega) more
      intro isBackslash
      cases after with
      | nil => exact notAlone isBackslash rfl
      | cons mark others => exact notEscape mark others isBackslash rfl

theorem stringAt_of_readPiece_none (piece : readPiece rule text = .ok (none, rest)) :
    StringAt escape text [] rest := by
  unfold readPiece at piece
  split at piece
  · cases piece
  · cases piece
    exact .close
  · cases piece
  · split at piece <;> cases piece
  · split at piece <;> cases piece
  · split at piece <;> cases piece

/-- The reader of strings follows the grammar. -/
theorem readString_eq_ok_iff (reads : rule.Reads escape) :
    readString rule text = .ok (characters, rest) ↔ StringAt escape text characters rest := by
  constructor
  · intro accepted
    induction text using readString.induct rule generalizing characters rest with
    | case1 text fault piece =>
        rw [readString] at accepted
        split at accepted <;> simp_all
    | case2 text after piece =>
        rw [readString_of_close piece] at accepted
        cases accepted
        exact stringAt_of_readPiece_none piece
    | case3 text character after piece fault failed ih =>
        rw [readString] at accepted
        split at accepted <;> simp_all
    | case4 text character after piece more last read ih =>
        rw [readString_of_piece piece read] at accepted
        cases accepted
        exact stringAt_of_readPiece reads piece (ih read)
  · intro isString
    induction isString with
    | close => exact readString_of_close rfl
    | plain notQuote notBackslash notControl more ih =>
        exact readString_of_piece (readPiece_plain notQuote notBackslash notControl) ih
    | short isEscape more ih => exact readString_of_piece (readPiece_short isEscape) ih
    | unicode isEscape more ih =>
        refine readString_of_piece ?_ ih
        simp [readPiece, (reads _ _ _).mpr isEscape]

end

end PointRecords.Json
