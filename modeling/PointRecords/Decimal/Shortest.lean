import PointRecords.Binary.Rounding
import PointRecords.Decimal.Digits

/-!
# The shortest decimal of a magnitude

A finite magnitude is written with the least number of digits that reads back as
the same magnitude, and with the nearest decimal of that length.

The reals that read back as a magnitude form a span that ends half way to each
neighbour.  Measured in half units both ends are whole numbers, also below a
power of two, where the lower half is narrower, among the smallest magnitudes
and below infinity.  A decimal grid meets the span exactly if one of the two
grid points around the magnitude does, so only those two are tried on each grid.
-/

namespace PointRecords

namespace Decimal

/-- A natural number times a power of ten. -/
structure Scientific where
  coefficient : Nat
  exponent : Int
  deriving DecidableEq

/-- Which of two equally near decimals is taken: the larger one, or the one
whose last digit is even. -/
inductive Tie
  | upper
  | even
  deriving DecidableEq

/-- The reals that read back as a magnitude, all in half units. -/
structure Span where
  low : Nat
  middle : Nat
  high : Nat
  closed : Bool

namespace Span

def contains (span : Span) (numerator denominator : Nat) : Bool :=
  if span.closed then
    span.low * denominator ≤ numerator && numerator ≤ span.high * denominator
  else
    span.low * denominator < numerator && numerator < span.high * denominator

/-- On the grid of multiples of `numerator / denominator`, the multiple nearest
to the middle, if the span contains one. -/
def nearestMultiple? (span : Span) (tie : Tie) (numerator denominator : Nat) :
    Option Nat :=
  let below := span.middle * denominator / numerator
  let above := below + 1
  let past := span.middle * denominator % numerator
  match span.contains (below * numerator) denominator,
      span.contains (above * numerator) denominator with
  | true, true =>
      if 2 * past < numerator then some below
      else if numerator < 2 * past then some above
      else match tie with
        | .upper => some above
        | .even => if below % 2 = 0 then some below else some above
  | true, false => some below
  | false, true => some above
  | false, false => none

end Span

/-- The exponent of the first digit of a positive quotient. -/
def leadingExponent (numerator denominator : Nat) : Int :=
  if denominator ≤ numerator then
    (digitCount (numerator / denominator) : Int) - 1
  else
    -(digitCount ((denominator - 1) / numerator) : Int)

end Decimal

namespace Binary.Format

open Decimal

variable (format : Format)

/-- The reals that round to a magnitude.  The ends round to it exactly when it
is even. -/
def span (magnitude : Nat) : Span where
  low := format.units (magnitude - 1) + format.units magnitude
  middle := 2 * format.units magnitude
  high := format.units magnitude + format.units (magnitude + 1)
  closed := magnitude % 2 == 0

/-- Half units in one. -/
def halvesInOne : Nat := 2 * format.unitsInOne

/-- The decimal of at most `length` digits nearest to a magnitude, if one reads
back as it. -/
def decimalOfLength? (tie : Tie) (magnitude length : Nat) : Option Scientific :=
  let span := format.span magnitude
  let exponent : Int :=
    leadingExponent span.middle format.halvesInOne + 1 - length
  (span.nearestMultiple? tie (Nat.pow 10 exponent.toNat * format.halvesInOne)
    (Nat.pow 10 (-exponent).toNat)).map (⟨·, exponent⟩)

/-- The shortest decimal that reads back as a magnitude.  A format never needs
more digits than its fraction has bits, and two. -/
def shortest (tie : Tie) (magnitude : Nat) : Scientific :=
  if magnitude = 0 then ⟨0, 0⟩
  else
    ((List.range (format.fractionBits + 2)).findSome? fun digit =>
      format.decimalOfLength? tie magnitude (digit + 1)).getD ⟨0, 0⟩

end Binary.Format

end PointRecords
