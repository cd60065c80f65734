/-!
# Bytes and their digits

Packed data is a list of bytes.  A reader takes what it needs off the front and
returns the rest.  Numbers are written as digits of a base, the least
significant first; base 256 gives the little-endian bytes of a number.
-/

namespace PointRecords.Packed

abbrev Bytes := List UInt8

/-- Why bytes are not the packed form of a value. -/
inductive Fault
  | tooShort
  | tooLong
  | invalidPacking
  | hugeLength
  deriving DecidableEq

namespace Fault

def message : Fault → String
  | .tooShort => "EOF"
  | .tooLong => "Expected EOF"
  | .invalidPacking => "invalid packing"
  | .hugeLength => "huge length"

end Fault

def takeBytes (count : Nat) (bytes : Bytes) : Except Fault (Bytes × Bytes) :=
  if bytes.length < count then .error .tooShort
  else .ok (bytes.take count, bytes.drop count)

def takeByte : Bytes → Except Fault (UInt8 × Bytes)
  | [] => .error .tooShort
  | byte :: rest => .ok (byte, rest)

/-- The number with these digits, the least significant first. -/
def ofDigits (base : Nat) : Bytes → Nat
  | [] => 0
  | digit :: rest => digit.toNat + base * ofDigits base rest

/-- The lowest `count` digits of a number, the least significant first. -/
def toDigits (base : Nat) : Nat → Nat → Bytes
  | 0, _ => []
  | count + 1, number => UInt8.ofNat (number % base) :: toDigits base count (number / base)

@[simp]
theorem toDigits_length (base count number : Nat) :
    (toDigits base count number).length = count := by
  induction count generalizing number with
  | zero => rfl
  | succ count ih => simp [toDigits, ih]

/-- Digits below the base are found again in their number. -/
theorem toDigits_ofDigits {base : Nat} {digits : Bytes}
    (below : ∀ digit ∈ digits, digit.toNat < base) :
    toDigits base digits.length (ofDigits base digits) = digits := by
  induction digits with
  | nil => rfl
  | cons digit rest ih =>
      have digitBelow := below digit List.mem_cons_self
      have restBelow := fun other member => below other (List.mem_cons_of_mem _ member)
      have basePositive : 0 < base := by omega
      simp only [List.length_cons, toDigits, ofDigits, Nat.add_mul_mod_self_left,
        Nat.add_mul_div_left _ _ basePositive, Nat.mod_eq_of_lt digitBelow,
        Nat.div_eq_of_lt digitBelow, Nat.zero_add, ih restBelow, UInt8.ofNat_toNat]

/-- A number below the power of the base is the value of its digits. -/
theorem ofDigits_toDigits {base count number : Nat} (bytewise : base ≤ 256)
    (below : number < Nat.pow base count) :
    ofDigits base (toDigits base count number) = number := by
  induction count generalizing number with
  | zero =>
      simp only [Nat.pow_eq, Nat.pow_zero] at below
      simp only [toDigits, ofDigits]
      omega
  | succ count ih =>
      have basePositive : 0 < base := by
        rcases Nat.eq_zero_or_pos base with zero | positive
        · simp [zero] at below
        · exact positive
      have quotientBelow : number / base < Nat.pow base count := by
        rw [Nat.div_lt_iff_lt_mul basePositive]
        exact below
      have remainderBelow := Nat.mod_lt number basePositive
      simp only [toDigits, ofDigits, ih quotientBelow, UInt8.toNat_ofNat']
      rw [Nat.mod_eq_of_lt (by omega : number % base < 256)]
      exact Nat.mod_add_div number base

end PointRecords.Packed
