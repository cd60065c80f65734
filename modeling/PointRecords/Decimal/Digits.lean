/-!
# Decimal digits

The digits of a natural number, most significant first, and their value.
Reading the digits of a number gives the number back, and the number of digits
is the least power of ten above it.
-/

namespace PointRecords.Decimal

/-- The digits of a number, most significant first; zero has none. -/
def digits (number : Nat) : List Nat :=
  if number = 0 then [] else digits (number / 10) ++ [number % 10]

def value (digitList : List Nat) : Nat :=
  digitList.foldl (fun number digit => 10 * number + digit) 0

/-- The number of digits; zero has none. -/
def digitCount (number : Nat) : Nat := (digits number).length

@[simp]
theorem digits_zero : digits 0 = [] := by
  simp [digits]

theorem digits_of_pos {number : Nat} (positive : 0 < number) :
    digits number = digits (number / 10) ++ [number % 10] := by
  rw [digits, if_neg (by omega)]

@[simp]
theorem value_nil : value [] = 0 :=
  rfl

@[simp]
theorem value_append_singleton (digitList : List Nat) (digit : Nat) :
    value (digitList ++ [digit]) = 10 * value digitList + digit := by
  simp [value]

/-- Reading the digits of a number gives the number back. -/
@[simp]
theorem value_digits (number : Nat) : value (digits number) = number := by
  induction number using Nat.strongRecOn with
  | ind number ih =>
      by_cases isZero : number = 0
      · simp [isZero]
      · rw [digits_of_pos (by omega), value_append_singleton,
          ih (number / 10) (by omega)]
        omega

theorem lt_ten_of_mem_digits {number digit : Nat}
    (isDigit : digit ∈ digits number) : digit < 10 := by
  induction number using Nat.strongRecOn with
  | ind number ih =>
      by_cases isZero : number = 0
      · simp [isZero] at isDigit
      · rw [digits_of_pos (by omega), List.mem_append, List.mem_singleton] at isDigit
        rcases isDigit with earlier | last
        · exact ih (number / 10) (by omega) earlier
        · omega

/-- A number has at most `count` digits exactly when it is below the power of
ten. -/
theorem digitCount_le_iff (number count : Nat) :
    digitCount number ≤ count ↔ number < Nat.pow 10 count := by
  induction count generalizing number with
  | zero =>
      by_cases isZero : number = 0
      · simp [isZero, digitCount]
      · simp [digitCount, digits_of_pos (Nat.pos_of_ne_zero isZero), isZero]
  | succ count ih =>
      by_cases isZero : number = 0
      · subst isZero
        simp only [digitCount, digits_zero, List.length_nil, Nat.zero_le, true_iff]
        exact Nat.pow_pos (by decide)
      · have shorter := ih (number / 10)
        simp only [digitCount, Nat.pow_eq] at shorter ⊢
        rw [digits_of_pos (Nat.pos_of_ne_zero isZero), List.length_append,
          List.length_singleton, Nat.add_le_add_iff_right, shorter, Nat.pow_succ,
          Nat.div_lt_iff_lt_mul (by decide)]

def digitChar (digit : Nat) : Char := Char.ofNat (48 + digit)

def digitOf? (character : Char) : Option Nat :=
  if '0' ≤ character ∧ character ≤ '9' then some (character.toNat - 48) else none

/-- The longest run of digits at the front, and what follows it. -/
def digitRun : List Char → List Nat × List Char
  | [] => ([], [])
  | character :: rest =>
      match digitOf? character with
      | some digit =>
          let (more, after) := digitRun rest
          (digit :: more, after)
      | none => ([], character :: rest)

theorem digitRun_length (text : List Char) :
    (digitRun text).1.length + (digitRun text).2.length = text.length := by
  induction text with
  | nil => rfl
  | cons character rest ih =>
      unfold digitRun
      cases digitOf? character with
      | none => simp
      | some digit =>
          simp only [List.length_cons]
          omega

def natural (number : Nat) : List Char :=
  if number = 0 then ['0'] else (digits number).map digitChar

/-- The decimal text of an integer: a minus sign before a negative one. -/
def integer (number : Int) : List Char :=
  if number < 0 then '-' :: natural number.natAbs else natural number.natAbs

end PointRecords.Decimal

namespace PointRecords

def integerText (number : Int) : String :=
  String.ofList (Decimal.integer number)

end PointRecords
