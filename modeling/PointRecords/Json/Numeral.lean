import PointRecords.Decimal.Integer
import PointRecords.Json.Fault

/-!
# JSON numerals

A numeral is read in two steps.  `Numeral.scan` takes the longest numeral off a
text and keeps its digits; `Numeral.evaluate` gives the digits a value.

Integers of 64 bits are kept as they are.  Every other numeral is evaluated in
double precision: the digits that fit fill a 64-bit significand, and the
significand is scaled by powers of ten, each of them rounded, as is each
product and each quotient.
-/

namespace PointRecords.Json

open Decimal Binary

/-- The digits of an exponent and whether a minus sign stands before them. -/
structure Exponent where
  negative : Bool
  digits : List Nat
  deriving DecidableEq

/-- The digits of a number.  The fraction is empty where no point stands. -/
structure Numeral where
  negative : Bool
  whole : List Nat
  fraction : List Nat
  exponent : Option Exponent
  deriving DecidableEq

namespace Numeral

/-- Why a text does not begin with a numeral: it ends inside one, or goes on
with something else. -/
inductive Defect
  | cutOff
  | malformed
  deriving DecidableEq

/-- The part before the point: a zero alone, or digits without a leading
zero. -/
def scanWhole : List Char → Except Defect (List Nat × List Char)
  | [] => .error .cutOff
  | text =>
      match digitRun text with
      | ([], _) => .error .malformed
      | (0 :: _ :: _, _) => .error .malformed
      | (whole, rest) => .ok (whole, rest)

def scanFraction : List Char → Except Defect (List Nat × List Char)
  | '.' :: text =>
      match digitRun text with
      | ([], []) => .error .cutOff
      | ([], _ :: _) => .error .malformed
      | (fraction, rest) => .ok (fraction, rest)
  | text => .ok ([], text)

def scanExponentDigits (negative : Bool) (text : List Char) :
    Except Defect (Option Exponent × List Char) :=
  match digitRun text with
  | ([], []) => .error .cutOff
  | ([], _ :: _) => .error .malformed
  | (digitList, rest) => .ok (some ⟨negative, digitList⟩, rest)

def scanExponent : List Char → Except Defect (Option Exponent × List Char)
  | 'e' :: '-' :: text | 'E' :: '-' :: text => scanExponentDigits true text
  | 'e' :: '+' :: text | 'E' :: '+' :: text => scanExponentDigits false text
  | 'e' :: text | 'E' :: text => scanExponentDigits false text
  | text => .ok (none, text)

def scanUnsigned (negative : Bool) (text : List Char) :
    Except Defect (Numeral × List Char) := do
  let (whole, afterWhole) ← scanWhole text
  let (fraction, afterFraction) ← scanFraction afterWhole
  let (exponent, rest) ← scanExponent afterFraction
  return (⟨negative, whole, fraction, exponent⟩, rest)

def scan : List Char → Except Defect (Numeral × List Char)
  | '-' :: text => scanUnsigned true text
  | text => scanUnsigned false text

theorem scanWhole_shorter {text rest : List Char} {whole : List Nat}
    (accepted : scanWhole text = .ok (whole, rest)) :
    rest.length < text.length := by
  unfold scanWhole at accepted
  split at accepted
  · cases accepted
  · have lengths := digitRun_length text
    split at accepted
    · cases accepted
    · cases accepted
    · rename_i found after nonempty _ run
      cases accepted
      simp only [run] at lengths
      cases whole with
      | nil => exact (nonempty rfl).elim
      | cons digit more =>
          simp only [List.length_cons] at lengths
          omega

theorem scanFraction_length_le {text rest : List Char} {fraction : List Nat}
    (accepted : scanFraction text = .ok (fraction, rest)) :
    rest.length ≤ text.length := by
  unfold scanFraction at accepted
  split at accepted
  · rename_i digitText
    have lengths := digitRun_length digitText
    split at accepted
    · cases accepted
    · cases accepted
    · rename_i found after _ _ run
      cases accepted
      simp only [run] at lengths
      simp only [List.length_cons]
      omega
  · cases accepted
    exact Nat.le_refl _

theorem scanExponentDigits_length_le {negative : Bool} {text rest : List Char}
    {exponent : Option Exponent}
    (accepted : scanExponentDigits negative text = .ok (exponent, rest)) :
    rest.length ≤ text.length := by
  unfold scanExponentDigits at accepted
  have lengths := digitRun_length text
  split at accepted
  · cases accepted
  · cases accepted
  · rename_i found after _ _ run
    cases accepted
    simp only [run] at lengths
    omega

theorem scanExponent_length_le {text rest : List Char} {exponent : Option Exponent}
    (accepted : scanExponent text = .ok (exponent, rest)) :
    rest.length ≤ text.length := by
  unfold scanExponent at accepted
  split at accepted <;>
    first
    | (have bound := scanExponentDigits_length_le accepted
       simp only [List.length_cons]
       omega)
    | (cases accepted
       exact Nat.le_refl _)

theorem scanUnsigned_shorter {negative : Bool} {text rest : List Char}
    {numeral : Numeral}
    (accepted : scanUnsigned negative text = .ok (numeral, rest)) :
    rest.length < text.length := by
  unfold scanUnsigned at accepted
  cases wholeScan : scanWhole text with
  | error defect => simp [wholeScan, bind, Except.bind] at accepted
  | ok wholeResult =>
      obtain ⟨whole, afterWhole⟩ := wholeResult
      cases fractionScan : scanFraction afterWhole with
      | error defect => simp [wholeScan, fractionScan, bind, Except.bind] at accepted
      | ok fractionResult =>
          obtain ⟨fraction, afterFraction⟩ := fractionResult
          cases exponentScan : scanExponent afterFraction with
          | error defect =>
              simp [wholeScan, fractionScan, exponentScan, bind, Except.bind] at accepted
          | ok exponentResult =>
              obtain ⟨exponent, after⟩ := exponentResult
              simp only [wholeScan, fractionScan, exponentScan, bind, Except.bind,
                pure, Except.pure, Except.ok.injEq, Prod.mk.injEq] at accepted
              have first := scanWhole_shorter wholeScan
              have second := scanFraction_length_le fractionScan
              have third := scanExponent_length_le exponentScan
              rw [← accepted.2]
              omega

/-- A scanned numeral takes at least one character. -/
theorem scan_shorter {text rest : List Char} {numeral : Numeral}
    (accepted : scan text = .ok (numeral, rest)) :
    rest.length < text.length := by
  unfold scan at accepted
  split at accepted
  · have shorter := scanUnsigned_shorter accepted
    simp only [List.length_cons]
    omega
  · exact scanUnsigned_shorter accepted

def isStart (character : Char) : Bool :=
  character == '-' || (digitOf? character).isSome

/-- The integers of 64 bits without a sign end here. -/
def unsignedLimit : Nat := 0x10000000000000000

/-- Exponents from here on are not read as numbers. -/
def exponentLimit : Nat := 0x80000000

/-- Append digits to a significand while it fits 64 bits.  The second result
counts the digits that were appended. -/
def fill (significand : Nat) : List Nat → Nat × Nat
  | [] => (significand, 0)
  | digit :: rest =>
      if 10 * significand + digit < unsignedLimit then
        let (filled, count) := fill (10 * significand + digit) rest
        (filled, count + 1)
      else (significand, 0)

def powerOfTen (exponent : Nat) : Pattern .double :=
  .ofInt (Nat.pow 10 exponent)

/-- Scale a number by a power of ten.  One product or quotient suffices for up
to 308 decimal places; smaller scales are reached in steps of that size, until
nothing is left of the number. -/
def scaleBy (number : Pattern .double) (exponent : Int) :
    Option (Pattern .double) :=
  if exponent.natAbs ≤ 308 then
    let scaled :=
      if 0 ≤ exponent then number.product (powerOfTen exponent.natAbs)
      else number.quotient (powerOfTen exponent.natAbs)
    if scaled.isFinite then some scaled else none
  else if number.magnitude = 0 then some number
  else if 0 ≤ exponent then none
  else scaleBy (number.quotient (powerOfTen 308)) (exponent + 308)
termination_by exponent.natAbs
decreasing_by omega

/-- The value of a numeral without its sign, in double precision.  There is none
if it is too large.  An exponent beyond 31 bits leaves nothing but zero or a
number that is too large. -/
def floatingMagnitude (numeral : Numeral) : Option (Pattern .double) :=
  let (wholeFill, kept) := fill 0 numeral.whole
  let (significand, places) := fill wholeFill numeral.fraction
  let shift : Int := numeral.whole.length - kept - places
  match numeral.exponent with
  | none => scaleBy (.ofInt significand) shift
  | some ⟨negative, digitList⟩ =>
      let exponent := value digitList
      if exponentLimit ≤ exponent then
        if significand = 0 ∨ negative then some .zero else none
      else
        scaleBy (.ofInt significand) (if negative then shift - exponent else shift + exponent)

/-- The numeral is written without a point and without an exponent. -/
def isInteger (numeral : Numeral) : Bool :=
  numeral.fraction.isEmpty && numeral.exponent.isNone

/-- The value of a numeral, if it is not too large. -/
def evaluate (numeral : Numeral) : Option Number :=
  let whole := value numeral.whole
  if numeral.isInteger && !numeral.negative && whole < unsignedLimit then
    some (.integer whole)
  else if numeral.isInteger && numeral.negative && whole != 0 && whole ≤ signedLimit then
    some (.integer (-whole))
  else
    numeral.floatingMagnitude.map fun number =>
      .floating { number with negative := numeral.negative }

end Numeral

end PointRecords.Json
