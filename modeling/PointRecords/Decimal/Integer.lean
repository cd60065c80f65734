import PointRecords.Decimal.Digits

/-!
# Reading bounded integers

An integer text is an optional sign and at least one digit.  It is read from the
left, and the first thing that cannot be continued settles the result: a
character that is no digit, or a digit with which the number leaves the 64-bit
range.  So what follows a number that is already too wide is not looked at.
-/

namespace PointRecords.Decimal

/-- Why a text is not an integer of 64 bits. -/
inductive IntegerFault
  | empty
  | invalidDigit
  | tooLarge
  | tooSmall
  deriving DecidableEq

namespace IntegerFault

def message : IntegerFault → String
  | .empty => "cannot parse integer from empty string"
  | .invalidDigit => "invalid digit found in string"
  | .tooLarge => "number too large to fit in target type"
  | .tooSmall => "number too small to fit in target type"

end IntegerFault

/-- The integers of 64 bits with a sign end here. -/
def signedLimit : Nat := 0x8000000000000000

/-- The number lies in the signed 64-bit range. -/
def FitsInt64 (number : Int) : Prop :=
  -(signedLimit : Int) ≤ number ∧ number < signedLimit

instance (number : Int) : Decidable (FitsInt64 number) :=
  inferInstanceAs (Decidable (_ ∧ _))

/-- Read digits onto a number, counting away from zero in the direction of the
sign. -/
def readDigits (negative : Bool) : Int → List Char → Except IntegerFault Int
  | number, [] => .ok number
  | number, character :: rest =>
      match digitOf? character with
      | none => .error .invalidDigit
      | some digit =>
          let next := if negative then 10 * number - digit else 10 * number + digit
          if FitsInt64 next then readDigits negative next rest
          else .error (if negative then .tooSmall else .tooLarge)

def readInteger : List Char → Except IntegerFault Int
  | [] => .error .empty
  | ['-'] => .error .invalidDigit
  | ['+'] => .error .invalidDigit
  | '-' :: rest => readDigits true 0 rest
  | '+' :: rest => readDigits false 0 rest
  | text => readDigits false 0 text

end PointRecords.Decimal
