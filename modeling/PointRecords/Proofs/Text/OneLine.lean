import PointRecords.Proofs.Decimal.Integer
import PointRecords.Proofs.Decimal.Layout
import PointRecords.Text.Quoted
import PointRecords.Text.Terminal

/-!
# Texts of one line

A text stays on its line if it holds no control character and no separator of lines or
paragraphs.  Quoting makes such a text of any other, numbers are written as one, and a
terminal, or what stands in for one, shows all of it.
-/

namespace PointRecords

namespace Text

/-- A control character, or a separator of lines or of paragraphs. -/
def breaksLine (character : Char) : Bool :=
  character.toNat < 0x20 || (0x7f ≤ character.toNat && character.toNat ≤ 0x9f) ||
    character.toNat == 0x2028 || character.toNat == 0x2029

/-- The text has no character that could end its line, or act on the terminal. -/
def StaysOnLine (text : List Char) : Prop := ∀ character ∈ text, breaksLine character = false

instance (text : List Char) : Decidable (StaysOnLine text) :=
  List.decidableBAll (fun character => breaksLine character = false) text

@[simp]
theorem staysOnLine_nil : StaysOnLine [] := by
  simp [StaysOnLine]

@[simp]
theorem staysOnLine_cons {character : Char} {text : List Char} :
    StaysOnLine (character :: text) ↔ breaksLine character = false ∧ StaysOnLine text := by
  simp [StaysOnLine]

@[simp]
theorem staysOnLine_append {first second : List Char} :
    StaysOnLine (first ++ second) ↔ StaysOnLine first ∧ StaysOnLine second := by
  simp [StaysOnLine, or_imp, forall_and]

theorem staysOnLine_flatMap {text : List Char} {write : Char → List Char}
    (each : ∀ character ∈ text, StaysOnLine (write character)) :
    StaysOnLine (text.flatMap write) := by
  intro character member
  obtain ⟨source, isSource, isWritten⟩ := List.mem_flatMap.mp member
  exact each source isSource character isWritten

/-- The string is a text of one line. -/
def IsOneLine (text : String) : Prop := StaysOnLine text.toList

instance (text : String) : Decidable (IsOneLine text) :=
  inferInstanceAs (Decidable (StaysOnLine text.toList))

theorem isOneLine_append {first second : String} :
    IsOneLine (first ++ second) ↔ IsOneLine first ∧ IsOneLine second := by
  rw [IsOneLine, String.toList_append, staysOnLine_append]
  rfl

theorem isOneLine_ofList {text : List Char} (stays : StaysOnLine text) :
    IsOneLine (String.ofList text) := by
  rwa [IsOneLine, String.toList_ofList]

/-! ## Quoted texts -/

theorem inRanges_of_mem {ranges : List (Nat × Nat)} {code first last : Nat}
    (listed : (first, last) ∈ ranges) (above : first ≤ code) (below : code ≤ last) :
    inRanges ranges code = true := by
  simp only [inRanges, List.any_eq_true]
  exact ⟨_, listed, by simp [above, below]⟩

/-- What breaks a line is invisible, so it is escaped. -/
theorem isInvisible_of_breaksLine {character : Char} (breaks : breaksLine character = true) :
    isInvisible character = true := by
  have controls : ((0x0, 0x1f) : Nat × Nat) ∈ invisibleLow := by decide +kernel
  have laterControls : ((0x7f, 0xa0) : Nat × Nat) ∈ invisibleLow := by decide +kernel
  have separators : ((0x2028, 0x202f) : Nat × Nat) ∈ invisibleLow := by decide +kernel
  simp only [breaksLine, Bool.or_eq_true, Bool.and_eq_true, decide_eq_true_eq, beq_iff_eq] at breaks
  have low : character.toNat < 0x3000 := by omega
  rw [isInvisible]
  simp only [low, if_true]
  rcases breaks with ((control | later) | separator) | separator
  · exact inRanges_of_mem controls (by omega) (by omega)
  · exact inRanges_of_mem laterControls (by omega) (by omega)
  · exact inRanges_of_mem separators (by omega) (by omega)
  · exact inRanges_of_mem separators (by omega) (by omega)

theorem breaksLine_digitChar : ∀ digit < 16, breaksLine (Nat.digitChar digit) = false := by
  decide

theorem staysOnLine_toDigitsCore {fuel number : Nat} {digits : List Char}
    (stays : StaysOnLine digits) : StaysOnLine (Nat.toDigitsCore 16 fuel number digits) := by
  induction fuel generalizing number digits with
  | zero => exact stays
  | succ fuel ih =>
      have isDigit := breaksLine_digitChar (number % 16) (Nat.mod_lt _ (by decide))
      have next := staysOnLine_cons.mpr ⟨isDigit, stays⟩
      rw [Nat.toDigitsCore]
      split_ifs
      · exact next
      · exact ih next

theorem staysOnLine_quoteChar (character : Char) : StaysOnLine (quoteChar character) := by
  unfold quoteChar
  split
  case h_7 =>
      split
      · have digits : StaysOnLine (hexadecimal character.toNat) :=
          staysOnLine_toDigitsCore staysOnLine_nil
        simp only [staysOnLine_append, digits, and_true]
        decide
      · rename_i visible
        refine staysOnLine_cons.mpr ⟨?_, staysOnLine_nil⟩
        rw [Bool.eq_false_iff]
        exact fun breaks => visible (isInvisible_of_breaksLine breaks)
  all_goals decide

/-- A quoted text is on one line, whatever it quotes. -/
theorem isOneLine_quoted (text : String) : IsOneLine (quoted text) := by
  have inside : StaysOnLine (text.toList.flatMap quoteChar) :=
    staysOnLine_flatMap fun character _ => staysOnLine_quoteChar character
  refine isOneLine_ofList (staysOnLine_cons.mpr ⟨by decide, staysOnLine_append.mpr ⟨inside, ?_⟩⟩)
  decide

/-! ## Streamed texts -/

theorem shows_of_not_breaksLine {character : Char} (stays : breaksLine character = false) :
    Terminal.ground.shows character = true := by
  simp only [breaksLine, Bool.or_eq_false_iff, Bool.and_eq_false_iff, decide_eq_false_iff_not]
    at stays
  have notDelete : character.toNat ≠ 0x7f := by omega
  unfold Terminal.shows
  split
  · rfl
  · simp [notDelete, not_lt.mp stays.1.1.1]

/-- On the ground a character that is shown leaves the terminal there. -/
theorem streamed_cons_of_shows {character : Char} (shown : Terminal.ground.shows character = true)
    (showing : Bool) (rest : List Char) :
    streamed showing .ground (character :: rest) = character :: streamed true .ground rest := by
  rw [streamed]
  simp [shown]

/-- A line is shown as it is. -/
theorem streamed_line {text : List Char} (stays : StaysOnLine text) (showing : Bool) :
    streamed showing .ground (text ++ ['\n']) = text ++ ['\n'] := by
  induction text generalizing showing with
  | nil => exact streamed_cons_of_shows rfl showing []
  | cons character text ih =>
      rw [staysOnLine_cons] at stays
      rw [List.cons_append, streamed_cons_of_shows (shows_of_not_breaksLine stays.1),
        ih stays.2]

/-- Lines that are each ended by a line break are what a text is split into at its line
breaks. -/
theorem splitOn_lines {lines : List (List Char)} (areLines : ∀ line ∈ lines, StaysOnLine line) :
    (lines.flatMap (· ++ ['\n'])).splitOn '\n' = lines ++ [[]] := by
  induction lines with
  | nil => simp
  | cons line lines ih =>
      obtain ⟨isLine, others⟩ := List.forall_mem_cons.mp areLines
      have noBreak : ∀ character ∈ line, (character == '\n') = false := by
        intro character member
        have stays := isLine character member
        rw [beq_eq_false_iff_ne]
        rintro rfl
        cases stays
      rw [List.flatMap_cons, List.append_assoc, List.singleton_append, List.splitOn,
        List.splitOnP_append_cons_of_forall_mem noBreak '\n' (by rfl)]
      exact congrArg (line :: ·) (ih others)

end Text

/-! ## Written numbers -/

namespace Decimal

open Text

theorem breaksLine_digitChar : ∀ digit < 10, breaksLine (digitChar digit) = false := by
  decide

theorem staysOnLine_digits {digitList : List Nat} (areDigits : AreDigits digitList) :
    StaysOnLine (digitList.map digitChar) := by
  intro character member
  obtain ⟨digit, isDigit, rfl⟩ := List.mem_map.mp member
  exact breaksLine_digitChar digit (areDigits digit isDigit)

theorem staysOnLine_natural (number : Nat) : StaysOnLine (natural number) := by
  rw [natural_eq]
  exact staysOnLine_digits (areDigits_writtenDigits number)

theorem staysOnLine_integer (number : Int) : StaysOnLine (integer number) := by
  have digits := staysOnLine_natural number.natAbs
  unfold integer
  split
  · exact staysOnLine_cons.mpr ⟨by decide, digits⟩
  · exact digits

theorem IsInteger.staysOnLine {text : List Char} (isInteger : IsInteger text) :
    StaysOnLine text := by
  obtain ⟨_, sign, negative, digitList, isSign, rfl, -, areDigits, -⟩ := isInteger
  refine staysOnLine_append.mpr ⟨?_, staysOnLine_digits areDigits⟩
  rcases isSign with ⟨rfl, -⟩ | ⟨rfl, -⟩ | ⟨rfl, -⟩ <;> decide

theorem staysOnLine_positional (keepsPoint : Bool) (leading : Int) {digitList : List Nat}
    (nonempty : digitList ≠ []) (areDigits : AreDigits digitList) :
    StaysOnLine (positional keepsPoint leading digitList) := by
  obtain ⟨whole, fraction⟩ := areDigits_parts leading areDigits
  rw [positional_eq keepsPoint leading nonempty, staysOnLine_append]
  refine ⟨staysOnLine_digits whole, ?_⟩
  unfold pointed
  split
  · cases keepsPoint <;> decide
  · exact staysOnLine_cons.mpr ⟨by decide, staysOnLine_digits fraction⟩

theorem staysOnLine_scientific (signsExponent : Bool) (leading : Int) {digitList : List Nat}
    (areDigits : AreDigits digitList) :
    StaysOnLine (scientific signsExponent leading digitList) := by
  have digits := staysOnLine_digits areDigits
  have exponent : StaysOnLine ((if signsExponent && 0 ≤ leading then ['+'] else []) ++
      integer leading) := by
    refine staysOnLine_append.mpr ⟨?_, staysOnLine_integer leading⟩
    split <;> decide
  refine staysOnLine_append.mpr ⟨?_, staysOnLine_cons.mpr ⟨by decide, exponent⟩⟩
  split
  · rename_i split
    rw [split, staysOnLine_cons] at digits
    exact staysOnLine_cons.mpr ⟨digits.1, staysOnLine_cons.mpr ⟨by decide, digits.2⟩⟩
  · exact digits

theorem staysOnLine_write (layout : Layout) (decimal : Scientific) :
    StaysOnLine (decimal.write layout) := by
  unfold Scientific.write
  split
  · exact staysOnLine_positional _ _ decimal.significant_ne_nil decimal.areDigits_significant
  · exact staysOnLine_scientific _ _ decimal.areDigits_significant

end Decimal

theorem isOneLine_integerText (number : Int) : Text.IsOneLine (integerText number) :=
  Text.isOneLine_ofList (Decimal.staysOnLine_integer number)

/-- The text of any pattern is on one line. -/
theorem Binary.Pattern.staysOnLine_write {format : Binary.Format} (layout : Decimal.Layout)
    (pattern : Binary.Pattern format) : Text.StaysOnLine (pattern.write layout) := by
  unfold Binary.Pattern.write
  split
  · decide
  · refine Text.staysOnLine_append.mpr ⟨?_, ?_⟩
    · cases pattern.negative <;> decide
    · split
      · exact Decimal.staysOnLine_write layout _
      · decide

end PointRecords
