import Mathlib.Data.List.DropRight
import Mathlib.Tactic
import PointRecords.Decimal.Digits

/-!
# Lists of digits and their texts

A list of digits is read off a text by `digitRun` exactly when its characters
stand there and no further digit follows.  The value of a list is additive over
its parts, and zeros at either end can be taken off.
-/

namespace PointRecords.Decimal

def AreDigits (digitList : List Nat) : Prop := ∀ digit ∈ digitList, digit < 10

/-- The text does not go on with a digit. -/
def NoDigit (text : List Char) : Prop := ∀ character ∈ text.head?, digitOf? character = none

/-- A zero does not stand before other digits. -/
def NoLeadingZero (digitList : List Nat) : Prop :=
  ∀ digit more, digitList = digit :: more → digit ≠ 0 ∨ more = []

@[simp]
theorem areDigits_nil : AreDigits [] := by
  simp [AreDigits]

@[simp]
theorem areDigits_cons {digit : Nat} {digitList : List Nat} :
    AreDigits (digit :: digitList) ↔ digit < 10 ∧ AreDigits digitList := by
  simp [AreDigits]

@[simp]
theorem areDigits_append {first second : List Nat} :
    AreDigits (first ++ second) ↔ AreDigits first ∧ AreDigits second := by
  simp [AreDigits, or_imp, forall_and]

@[simp]
theorem areDigits_replicate_zero (count : Nat) : AreDigits (List.replicate count 0) := by
  intro digit member
  rw [List.eq_of_mem_replicate member]
  decide

theorem AreDigits.sublist {first second : List Nat} (areDigits : AreDigits second)
    (sublist : first.Sublist second) : AreDigits first :=
  fun digit member => areDigits digit (sublist.subset member)

theorem areDigits_digits (number : Nat) : AreDigits (digits number) :=
  fun _ => lt_ten_of_mem_digits

@[simp]
theorem noDigit_nil : NoDigit [] := by
  simp [NoDigit]

@[simp]
theorem noDigit_cons {character : Char} {text : List Char} :
    NoDigit (character :: text) ↔ digitOf? character = none := by
  simp [NoDigit]

/-! ## Values -/

theorem value_append (first second : List Nat) :
    value (first ++ second) = value first * 10 ^ second.length + value second := by
  induction second using List.reverseRecOn with
  | nil => simp
  | append_singleton second digit ih =>
      rw [← List.append_assoc, value_append_singleton, value_append_singleton, ih,
        List.length_append, List.length_singleton, pow_succ]
      ring

@[simp]
theorem value_singleton (digit : Nat) : value [digit] = digit := by
  simp [value]

theorem value_cons (digit : Nat) (digitList : List Nat) :
    value (digit :: digitList) = digit * 10 ^ digitList.length + value digitList := by
  have split := value_append [digit] digitList
  rwa [value_singleton, List.singleton_append] at split

@[simp]
theorem value_replicate_zero (count : Nat) : value (List.replicate count 0) = 0 := by
  induction count with
  | zero => rfl
  | succ count ih => rw [List.replicate_succ, value_cons, ih, Nat.zero_mul]

theorem value_lt {digitList : List Nat} (areDigits : AreDigits digitList) :
    value digitList < 10 ^ digitList.length := by
  induction digitList with
  | nil => simp
  | cons digit digitList ih =>
      rw [areDigits_cons] at areDigits
      have := ih areDigits.2
      rw [value_cons, List.length_cons, pow_succ]
      have : digit * 10 ^ digitList.length ≤ 9 * 10 ^ digitList.length :=
        Nat.mul_le_mul_right _ (by omega)
      omega

/-- The digits of a number do not begin with a zero. -/
theorem ne_zero_of_digits {number digit : Nat} {more : List Nat}
    (split : digits number = digit :: more) : digit ≠ 0 := by
  rintro rfl
  have value := value_digits number
  have below := value_lt (areDigits_cons.mp (split ▸ areDigits_digits number)).2
  have count := (digitCount_le_iff number more.length).mpr (by
    rw [← value, split, value_cons, Nat.zero_mul, Nat.zero_add]
    exact below)
  rw [digitCount, split, List.length_cons] at count
  omega

/-! ## Texts -/

@[simp]
theorem digitOf?_digitChar {digit : Nat} (isDigit : digit < 10) :
    digitOf? (digitChar digit) = some digit := by
  interval_cases digit <;> rfl

theorem digitOf?_eq_some_iff {character : Char} {digit : Nat} :
    digitOf? character = some digit ↔ digit < 10 ∧ character = digitChar digit := by
  constructor
  · intro isDigit
    unfold digitOf? at isDigit
    split at isDigit
    · rename_i between
      have low : 48 ≤ character.toNat := between.1
      have high : character.toNat ≤ 57 := between.2
      cases isDigit
      refine ⟨by omega, ?_⟩
      rw [digitChar, Nat.add_sub_cancel' low, Char.ofNat_toNat]
    · cases isDigit
  · rintro ⟨isDigit, rfl⟩
    exact digitOf?_digitChar isDigit

theorem digitChar_ne_sign {digit : Nat} (isDigit : digit < 10) :
    digitChar digit ≠ '+' ∧ digitChar digit ≠ '-' := by
  interval_cases digit <;> decide

theorem digitRun_append {digitList : List Nat} (areDigits : AreDigits digitList)
    {rest : List Char} (stops : NoDigit rest) :
    digitRun (digitList.map digitChar ++ rest) = (digitList, rest) := by
  induction digitList with
  | nil =>
      cases rest with
      | nil => rfl
      | cons character rest =>
          rw [noDigit_cons] at stops
          simp [digitRun, stops]
  | cons digit digitList ih =>
      rw [areDigits_cons] at areDigits
      simp [digitRun, areDigits.1, ih areDigits.2]

@[simp]
theorem digitRun_of_noDigit {text : List Char} (stops : NoDigit text) :
    digitRun text = ([], text) :=
  digitRun_append areDigits_nil stops

theorem areDigits_digitRun (text : List Char) : AreDigits (digitRun text).1 := by
  induction text with
  | nil => simp [digitRun]
  | cons character text ih =>
      cases isDigit : digitOf? character with
      | none => simp [digitRun, isDigit]
      | some digit =>
          simp [digitRun, isDigit, ih, (digitOf?_eq_some_iff.mp isDigit).1]

theorem noDigit_digitRun (text : List Char) : NoDigit (digitRun text).2 := by
  induction text with
  | nil => simp [digitRun]
  | cons character text ih =>
      cases isDigit : digitOf? character with
      | none => simp [digitRun, isDigit]
      | some digit => simpa [digitRun, isDigit] using ih

/-- A text is its run of digits and what follows it. -/
theorem digitRun_split (text : List Char) :
    (digitRun text).1.map digitChar ++ (digitRun text).2 = text := by
  induction text with
  | nil => rfl
  | cons character text ih =>
      cases isDigit : digitOf? character with
      | none => simp [digitRun, isDigit]
      | some digit =>
          obtain ⟨-, rfl⟩ := digitOf?_eq_some_iff.mp isDigit
          simpa [digitRun, isDigit] using ih

theorem digitRun_eq_iff {text : List Char} {digitList : List Nat} {rest : List Char} :
    digitRun text = (digitList, rest) ↔
      text = digitList.map digitChar ++ rest ∧ AreDigits digitList ∧ NoDigit rest := by
  constructor
  · intro run
    have split := digitRun_split text
    have areDigits := areDigits_digitRun text
    have stops := noDigit_digitRun text
    rw [run] at split areDigits stops
    exact ⟨split.symm, areDigits, stops⟩
  · rintro ⟨rfl, areDigits, stops⟩
    exact digitRun_append areDigits stops

/-- The digits that are written for a number: those of `digits`, or a zero. -/
def writtenDigits (number : Nat) : List Nat :=
  if number = 0 then [0] else digits number

theorem natural_eq (number : Nat) : natural number = (writtenDigits number).map digitChar := by
  unfold natural writtenDigits
  split
  · rfl
  · rfl

theorem areDigits_writtenDigits (number : Nat) : AreDigits (writtenDigits number) := by
  unfold writtenDigits
  split
  · simp
  · exact areDigits_digits number

@[simp]
theorem value_writtenDigits (number : Nat) : value (writtenDigits number) = number := by
  unfold writtenDigits
  split
  · rename_i isZero
    simp [isZero]
  · exact value_digits number

theorem writtenDigits_ne_nil (number : Nat) : writtenDigits number ≠ [] := by
  intro empty
  have nonzero : number ≠ 0 := by
    rintro rfl
    simp [writtenDigits] at empty
  have value := value_writtenDigits number
  rw [empty, value_nil] at value
  exact nonzero value.symm

theorem noLeadingZero_writtenDigits (number : Nat) : NoLeadingZero (writtenDigits number) := by
  intro digit more split
  unfold writtenDigits at split
  split at split
  · cases split
    exact Or.inr rfl
  · exact Or.inl (ne_zero_of_digits split)

end PointRecords.Decimal
