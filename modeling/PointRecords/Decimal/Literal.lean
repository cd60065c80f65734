import PointRecords.Binary.Pattern
import PointRecords.Decimal.Digits

/-!
# Reading floating-point literals

A literal is an optional sign and then either a word for infinity or for no
number, in any case, or digits with at most one point among or around them and
an optional exponent.  The exact decimal is rounded once, so the result is the
nearest pattern.
-/

namespace PointRecords.Decimal

/-- Why a text is not a floating-point literal. -/
inductive LiteralFault
  | empty
  | invalid
  deriving DecidableEq

namespace LiteralFault

def message : LiteralFault → String
  | .empty => "cannot parse float from empty string"
  | .invalid => "invalid float literal"

end LiteralFault

/-- The exponent that ends a literal, zero where there is none. -/
def exponentPart : List Char → Option Int
  | [] => some 0
  | mark :: rest =>
      if mark = 'e' ∨ mark = 'E' then
        let (negative, text) :=
          match rest with
          | '-' :: text => (true, text)
          | '+' :: text => (false, text)
          | text => (false, text)
        match digitRun text with
        | ([], _) => none
        | (digitList, []) =>
            some (if negative then -(value digitList : Int) else value digitList)
        | (_, _ :: _) => none
      else none

def decimalLiteral (text : List Char) : Option (Nat × Int) :=
  let (whole, afterWhole) := digitRun text
  let (fraction, afterFraction) :=
    match afterWhole with
    | '.' :: rest => digitRun rest
    | rest => ([], rest)
  if whole = [] ∧ fraction = [] then none
  else
    (exponentPart afterFraction).map fun exponent =>
      (value (whole ++ fraction), exponent - fraction.length)

/-- A text with its capital letters made small. -/
def lowercase (text : List Char) : String :=
  String.ofList (text.map Char.toLower)

/-- Read an unsigned literal as a pattern with the given sign. -/
def readUnsigned (format : Binary.Format) (negative : Bool) (text : List Char) :
    Option (Binary.Pattern format) :=
  if lowercase text = "inf" ∨ lowercase text = "infinity" then some (.infinite negative)
  else if lowercase text = "nan" then some (.notANumber negative)
  else
    (decimalLiteral text).map fun (coefficient, exponent) =>
      .ofDecimal negative coefficient exponent

/-- Read a floating-point literal as the nearest pattern. -/
def readLiteral (format : Binary.Format) (text : List Char) :
    Except LiteralFault (Binary.Pattern format) :=
  let pattern? :=
    match text with
    | '-' :: rest => readUnsigned format true rest
    | '+' :: rest => readUnsigned format false rest
    | rest => readUnsigned format false rest
  match pattern? with
  | some pattern => .ok pattern
  | none => .error (if text = [] then .empty else .invalid)

end PointRecords.Decimal
