import PointRecords.Decimal.Integer
import PointRecords.Proofs.Decimal.Digits

/-!
# Integer texts and the 64-bit range

An integer text is an optional sign and at least one digit.  The reader looks at
one character after the other, so it gives a number for the integer texts in
range; but it reports a number that is too wide as soon as the digits read so far
leave the range, whatever stands behind them.
-/

namespace PointRecords.Decimal

/-- A natural number counted away from zero in the direction of a sign. -/
def signed (negative : Bool) (number : Nat) : Int :=
  if negative then -(number : Int) else number

def IsSign (sign : List Char) (negative : Bool) : Prop :=
  sign = [] ∧ negative = false ∨ sign = ['+'] ∧ negative = false ∨ sign = ['-'] ∧ negative = true

/-- The text is an integer and denotes this number. -/
def Denotes (text : List Char) (number : Int) : Prop :=
  ∃ sign negative digitList, IsSign sign negative ∧ text = sign ++ digitList.map digitChar ∧
    digitList ≠ [] ∧ AreDigits digitList ∧ number = signed negative (value digitList)

/-- The text is an optional sign followed by digits and nothing else. -/
def IsInteger (text : List Char) : Prop := ∃ number, Denotes text number

/-- The text begins with an integer outside the 64-bit range. -/
def BeginsTooWide (text : List Char) : Prop :=
  ∃ front number, front <+: text ∧ Denotes front number ∧ ¬ FitsInt64 number

/-- The text that is written for an integer denotes it. -/
theorem denotes_integer (number : Int) : Denotes (integer number) number := by
  have digits := natural_eq number.natAbs
  have valued := value_writtenDigits number.natAbs
  have nonempty := writtenDigits_ne_nil number.natAbs
  have areDigits := areDigits_writtenDigits number.natAbs
  unfold integer
  split
  · refine ⟨['-'], true, _, Or.inr (Or.inr ⟨rfl, rfl⟩), by rw [digits]; rfl, nonempty, areDigits, ?_⟩
    rw [valued, signed, if_pos rfl]
    omega
  · refine ⟨[], false, _, Or.inl ⟨rfl, rfl⟩, digits, nonempty, areDigits, ?_⟩
    rw [valued, signed, if_neg Bool.false_ne_true]
    omega

theorem fitsInt64_signed_mono {negative : Bool} {first second : Nat} (le : first ≤ second)
    (fits : FitsInt64 (signed negative second)) : FitsInt64 (signed negative first) := by
  unfold FitsInt64 signed signedLimit at *
  cases negative <;> simp only [Bool.false_eq_true, if_false, if_true] at * <;> omega

theorem signed_step (negative : Bool) (number digit : Nat) :
    (if negative then 10 * signed negative number - digit
      else 10 * signed negative number + digit) = signed negative (10 * number + digit) := by
  cases negative <;> simp only [signed, Bool.false_eq_true, if_false, if_true] <;> omega

/-- A run of digits is read onto a number in range: it leaves the range, or the
text ends with it, or it is followed by something that is no digit. -/
theorem readDigits_append {negative : Bool} {number : Nat} {digitList : List Nat}
    {rest : List Char} (areDigits : AreDigits digitList) (stops : NoDigit rest)
    (fits : FitsInt64 (signed negative number)) :
    readDigits negative (signed negative number) (digitList.map digitChar ++ rest) =
      if FitsInt64 (signed negative (number * 10 ^ digitList.length + value digitList)) then
        if rest = [] then
          .ok (signed negative (number * 10 ^ digitList.length + value digitList))
        else .error .invalidDigit
      else .error (if negative then .tooSmall else .tooLarge) := by
  induction digitList generalizing number with
  | nil =>
      rw [List.length_nil, pow_zero, Nat.mul_one, value_nil, Nat.add_zero, if_pos fits]
      cases rest with
      | nil => rfl
      | cons character rest =>
          rw [noDigit_cons] at stops
          simp [readDigits, stops]
  | cons digit digitList ih =>
      rw [areDigits_cons] at areDigits
      have onto : number * 10 ^ (digit :: digitList).length + value (digit :: digitList) =
          (10 * number + digit) * 10 ^ digitList.length + value digitList := by
        rw [value_cons, List.length_cons, pow_succ]
        ring
      rw [onto, List.map_cons, List.cons_append, readDigits, digitOf?_digitChar areDigits.1]
      simp only [signed_step]
      split
      · rename_i nextFits
        exact ih areDigits.2 nextFits
      · rename_i tooWide
        have atMost : 10 * number + digit ≤
            (10 * number + digit) * 10 ^ digitList.length + value digitList :=
          (Nat.le_mul_of_pos_right _ (by positivity)).trans (Nat.le_add_right _ _)
        rw [if_neg fun wholeFits => tooWide (fitsInt64_signed_mono atMost wholeFits)]

/-- A text in its parts: a sign where it begins with one, the digits behind it,
and what follows them. -/
structure Parts (text sign : List Char) (negative : Bool) (digitList : List Nat)
    (rest : List Char) : Prop where
  isSign : IsSign sign negative
  text_eq : text = sign ++ (digitList.map digitChar ++ rest)
  areDigits : AreDigits digitList
  stops : NoDigit rest
  signed_of_head : sign = [] → text.head? ≠ some '+' ∧ text.head? ≠ some '-'

theorem exists_parts (text : List Char) :
    ∃ sign negative digitList rest, Parts text sign negative digitList rest := by
  by_cases plus : text.head? = some '+'
  · obtain ⟨rest, rfl⟩ := List.head?_eq_some_iff.mp plus
    exact ⟨['+'], false, (digitRun rest).1, (digitRun rest).2, Or.inr (Or.inl ⟨rfl, rfl⟩),
      by rw [digitRun_split]; rfl, areDigits_digitRun rest, noDigit_digitRun rest, by simp⟩
  · by_cases minus : text.head? = some '-'
    · obtain ⟨rest, rfl⟩ := List.head?_eq_some_iff.mp minus
      exact ⟨['-'], true, (digitRun rest).1, (digitRun rest).2, Or.inr (Or.inr ⟨rfl, rfl⟩),
        by rw [digitRun_split]; rfl, areDigits_digitRun rest, noDigit_digitRun rest, by simp⟩
    · exact ⟨[], false, (digitRun text).1, (digitRun text).2, Or.inl ⟨rfl, rfl⟩,
        by rw [digitRun_split]; rfl, areDigits_digitRun text, noDigit_digitRun text,
        fun _ => ⟨plus, minus⟩⟩

namespace Parts

variable {text sign rest : List Char} {negative : Bool} {digitList : List Nat}

/-- Another way to take a sign and at least one digit off a text takes the same
sign and no more digits. -/
theorem of_prefix (parts : Parts text sign negative digitList rest) {otherSign : List Char}
    {otherNegative : Bool} {otherDigits : List Nat} {otherRest : List Char}
    (otherIsSign : IsSign otherSign otherNegative)
    (textEq : text = otherSign ++ (otherDigits.map digitChar ++ otherRest))
    (nonempty : otherDigits ≠ []) (areDigits : AreDigits otherDigits) :
    otherNegative = negative ∧ ∃ more, digitList = otherDigits ++ more ∧
      more.map digitChar ++ rest = otherRest := by
  obtain ⟨digit, others, rfl⟩ := List.exists_cons_of_ne_nil nonempty
  have notSign := digitChar_ne_sign (areDigits_cons.mp areDigits).1
  have sameSign : otherSign = sign ∧ otherNegative = negative := by
    have head := parts.signed_of_head
    have equal := textEq.symm.trans parts.text_eq
    rw [textEq] at head
    rcases otherIsSign with ⟨rfl, rfl⟩ | ⟨rfl, rfl⟩ | ⟨rfl, rfl⟩ <;>
      rcases parts.isSign with ⟨rfl, rfl⟩ | ⟨rfl, rfl⟩ | ⟨rfl, rfl⟩ <;>
      simp_all
  refine ⟨sameSign.2, (digitRun otherRest).1, ?_, ?_⟩
  all_goals
    have equal := textEq.symm.trans parts.text_eq
    rw [sameSign.1, List.append_cancel_left_eq] at equal
    have run := digitRun_append parts.areDigits parts.stops
    rw [← equal] at run
    have joined : (digit :: others).map digitChar ++ otherRest =
        (digit :: others ++ (digitRun otherRest).1).map digitChar ++ (digitRun otherRest).2 := by
      rw [List.map_append, List.append_assoc, digitRun_split]
    rw [joined, digitRun_append (areDigits_append.mpr ⟨areDigits, areDigits_digitRun otherRest⟩)
      (noDigit_digitRun otherRest), Prod.mk.injEq] at run
  · exact run.1.symm
  · rw [← run.2, digitRun_split]

theorem denotes_iff (parts : Parts text sign negative digitList rest) (number : Int) :
    Denotes text number ↔
      digitList ≠ [] ∧ rest = [] ∧ number = signed negative (value digitList) := by
  constructor
  · rintro ⟨otherSign, otherNegative, otherDigits, isSign, textEq, nonempty, areDigits, rfl⟩
    obtain ⟨rfl, more, rfl, nothing⟩ := parts.of_prefix isSign
      (textEq.trans (by rw [List.append_nil])) nonempty areDigits
    obtain ⟨noMore, rfl⟩ := List.append_eq_nil_iff.mp nothing
    rw [List.map_eq_nil_iff.mp noMore, List.append_nil]
    exact ⟨nonempty, rfl, rfl⟩
  · rintro ⟨nonempty, rfl, rfl⟩
    exact ⟨sign, negative, digitList, parts.isSign, by simpa using parts.text_eq, nonempty,
      parts.areDigits, rfl⟩

theorem beginsTooWide_iff (parts : Parts text sign negative digitList rest) :
    BeginsTooWide text ↔
      digitList ≠ [] ∧ ¬ FitsInt64 (signed negative (value digitList)) := by
  constructor
  · rintro ⟨front, number, ⟨tail, rfl⟩, ⟨otherSign, otherNegative, otherDigits, isSign, rfl,
      nonempty, areDigits, rfl⟩, tooWide⟩
    obtain ⟨rfl, more, rfl, -⟩ := parts.of_prefix isSign (List.append_assoc _ _ _) nonempty areDigits
    refine ⟨by simp [nonempty], fun fits => tooWide (fitsInt64_signed_mono ?_ fits)⟩
    rw [value_append]
    exact (Nat.le_mul_of_pos_right _ (by positivity)).trans (Nat.le_add_right _ _)
  · rintro ⟨nonempty, tooWide⟩
    refine ⟨sign ++ digitList.map digitChar, _, ⟨rest, ?_⟩, ⟨sign, negative, digitList,
      parts.isSign, rfl, nonempty, parts.areDigits, rfl⟩, tooWide⟩
    rw [parts.text_eq, List.append_assoc]

theorem readInteger_eq (parts : Parts text sign negative digitList rest)
    (nonempty : digitList ≠ []) :
    readInteger text =
      if FitsInt64 (signed negative (value digitList)) then
        if rest = [] then .ok (signed negative (value digitList)) else .error .invalidDigit
      else .error (if negative then .tooSmall else .tooLarge) := by
  have zeroFits : FitsInt64 (signed negative 0) := by cases negative <;> decide
  have zero : signed negative 0 = 0 := by cases negative <;> rfl
  have read := readDigits_append parts.areDigits parts.stops zeroFits
  rw [Nat.zero_mul, Nat.zero_add, zero] at read
  rw [← read, parts.text_eq]
  obtain ⟨digit, others, rfl⟩ := List.exists_cons_of_ne_nil nonempty
  have notSign := digitChar_ne_sign (areDigits_cons.mp parts.areDigits).1
  rcases parts.isSign with ⟨rfl, rfl⟩ | ⟨rfl, rfl⟩ | ⟨rfl, rfl⟩
  · simp [readInteger, notSign]
  · simp [readInteger]
  · simp [readInteger]

theorem readInteger_of_no_digits (parts : Parts text sign negative [] rest) :
    readInteger text = .error (if text = [] then .empty else .invalidDigit) := by
  have stops := parts.stops
  have notSigned := parts.signed_of_head
  rw [parts.text_eq] at notSigned ⊢
  cases rest with
  | nil =>
      rcases parts.isSign with ⟨rfl, rfl⟩ | ⟨rfl, rfl⟩ | ⟨rfl, rfl⟩
      · rfl
      · rfl
      · rfl
  | cons character rest =>
      rw [noDigit_cons] at stops
      rcases parts.isSign with ⟨rfl, rfl⟩ | ⟨rfl, rfl⟩ | ⟨rfl, rfl⟩
      · have head : character ≠ '+' ∧ character ≠ '-' := by simpa using notSigned rfl
        simp [readInteger, readDigits, stops, head]
      · simp [readInteger, readDigits, stops]
      · simp [readInteger, readDigits, stops]

end Parts

theorem Denotes.unique {text : List Char} {first second : Int} (denotesFirst : Denotes text first)
    (denotesSecond : Denotes text second) : first = second := by
  obtain ⟨sign, negative, digitList, rest, parts⟩ := exists_parts text
  rw [parts.denotes_iff] at denotesFirst denotesSecond
  rw [denotesFirst.2.2, denotesSecond.2.2]

/-- An integer text that begins too wide is too wide as a whole. -/
theorem BeginsTooWide.not_fits {text : List Char} {number : Int} (tooWide : BeginsTooWide text)
    (denotes : Denotes text number) : ¬ FitsInt64 number := by
  obtain ⟨sign, negative, digitList, rest, parts⟩ := exists_parts text
  rw [parts.denotes_iff] at denotes
  rw [denotes.2.2]
  exact (parts.beginsTooWide_iff.mp tooWide).2

/-- The three ends of reading an integer: a number for an integer text in range, a
number too wide for any text that begins with one, and a fault for all others. -/
theorem readInteger_ends (text : List Char) :
    (∀ number, readInteger text = .ok number ↔ Denotes text number ∧ FitsInt64 number) ∧
    ((readInteger text = .error .tooLarge ∨ readInteger text = .error .tooSmall) ↔
      BeginsTooWide text) ∧
    ((readInteger text = .error .empty ∨ readInteger text = .error .invalidDigit) ↔
      ¬ IsInteger text ∧ ¬ BeginsTooWide text) := by
  obtain ⟨sign, negative, digitList, rest, parts⟩ := exists_parts text
  simp only [IsInteger, parts.denotes_iff, parts.beginsTooWide_iff]
  by_cases empty : digitList = []
  · subst empty
    rw [parts.readInteger_of_no_digits]
    by_cases nothing : text = [] <;> simp [nothing]
  · rw [parts.readInteger_eq empty]
    by_cases fits : FitsInt64 (signed negative (value digitList))
    · by_cases ends : rest = []
      · simp only [fits, ends, if_true, Except.ok.injEq]
        refine ⟨fun number => ⟨?_, fun denoted => denoted.1.2.2.symm⟩, by simp, by simp [empty]⟩
        rintro rfl
        exact ⟨⟨empty, trivial, rfl⟩, fits⟩
      · simp [fits, ends, empty]
    · cases negative <;> simp_all

end PointRecords.Decimal
