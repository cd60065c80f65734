/-!
# Hexadecimal

Code points in hexadecimal: written in lower case, and read in either case.
-/

namespace PointRecords.Text

def hexadecimal (code : Nat) : List Char := Nat.toDigits 16 code

/-- The value of a hexadecimal digit in either case. -/
def hexDigit? (character : Char) : Option Nat :=
  if '0' ≤ character ∧ character ≤ '9' then some (character.toNat - 48)
  else if 'a' ≤ character ∧ character ≤ 'f' then some (character.toNat - 87)
  else if 'A' ≤ character ∧ character ≤ 'F' then some (character.toNat - 55)
  else none

def isHexDigit (character : Char) : Bool := (hexDigit? character).isSome

def ofHexadecimal (digits : List Char) : Nat :=
  digits.foldl (fun value digit => 16 * value + (hexDigit? digit).getD 0) 0

end PointRecords.Text
