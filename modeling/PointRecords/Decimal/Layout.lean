import PointRecords.Binary.Pattern
import PointRecords.Decimal.Shortest

/-!
# Layouts of a decimal

A layout says how the shortest decimal of a pattern is written out: for which
exponents the digits stand in their places, whether a whole number keeps a point
and a zero, and whether a positive exponent carries a plus sign.
-/

namespace PointRecords.Decimal

/-- The decisions of one written form. -/
structure Layout where
  tie : Tie
  isPositional : Int → Bool
  keepsPoint : Bool
  signsExponent : Bool

namespace Layout

/-- Digits in their places, never an exponent, and no point in a whole
number. -/
def plain : Layout := ⟨.upper, fun _ => true, false, false⟩

/-- Digits in their places from one ten-thousandth to below ten to the
sixteenth, and a point in every positional form. -/
def debug : Layout := ⟨.upper, fun leading => -4 ≤ leading && leading ≤ 15, true, false⟩

/-- The form of a coordinate in JSON. -/
def jsonSingle : Layout := ⟨.even, fun leading => -6 ≤ leading && leading ≤ 12, true, true⟩

def jsonDouble : Layout := ⟨.even, fun leading => -5 ≤ leading && leading ≤ 15, true, true⟩

end Layout

namespace Scientific

/-- The digits up to the last one that is not zero; zero keeps one digit. -/
def significant (decimal : Scientific) : List Nat :=
  if decimal.coefficient = 0 then [0]
  else ((digits decimal.coefficient).reverse.dropWhile (· == 0)).reverse

def leading (decimal : Scientific) : Int :=
  if decimal.coefficient = 0 then 0
  else decimal.exponent + digitCount decimal.coefficient - 1

end Scientific

/-- Digits in their places around the decimal point, the first of them at
`leading`. -/
def positional (keepsPoint : Bool) (leading : Int) (digitList : List Nat) : List Char :=
  let text := digitList.map digitChar
  if leading < 0 then
    '0' :: '.' :: (List.replicate (-leading - 1).toNat '0' ++ text)
  else
    let places := leading.toNat + 1
    if text.length ≤ places then
      text ++ List.replicate (places - text.length) '0' ++
        (if keepsPoint then ['.', '0'] else [])
    else
      text.take places ++ '.' :: text.drop places

/-- One digit before the point, and an exponent. -/
def scientific (signsExponent : Bool) (leading : Int) (digitList : List Nat) : List Char :=
  let fraction :=
    match digitList.map digitChar with
    | first :: second :: more => first :: '.' :: second :: more
    | text => text
  let sign := if signsExponent && 0 ≤ leading then ['+'] else []
  fraction ++ 'e' :: (sign ++ integer leading)

namespace Scientific

def write (layout : Layout) (decimal : Scientific) : List Char :=
  if layout.isPositional decimal.leading then
    positional layout.keepsPoint decimal.leading decimal.significant
  else
    Decimal.scientific layout.signsExponent decimal.leading decimal.significant

end Scientific

end PointRecords.Decimal

namespace PointRecords.Binary.Pattern

open Decimal

variable {format : Format}

/-- The text of a pattern.  A minus sign stands before every negative number,
zero included; what is not a number has no sign. -/
def write (layout : Layout) (pattern : Pattern format) : List Char :=
  if pattern.isNaN then ['N', 'a', 'N']
  else
    (if pattern.negative then ['-'] else []) ++
      (if pattern.isFinite then
        (format.shortest layout.tie pattern.magnitude).write layout
      else ['i', 'n', 'f'])

end PointRecords.Binary.Pattern
