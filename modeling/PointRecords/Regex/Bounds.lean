import PointRecords.Regex.Cursor
import PointRecords.Regex.Defect
import PointRecords.Regex.Tree

/-!
# Bounds of repetitions

A star, a plus sign or a question mark, or numbers between braces; each may be
followed by a question mark, which makes the repetition reluctant.
-/

namespace PointRecords.Regex

def decimalValue (digits : List Char) : Nat :=
  digits.foldl (fun value digit => 10 * value + (digit.toNat - 48)) 0

/-- A number of 32 bits between blanks, or why there is none, and the place
after it. -/
def readCount (cursor : Cursor) : Except Defect Nat × Cursor :=
  let start := (cursor.takeWhile Text.isBlank).2
  let (digits, finish) := start.takeWhile Char.isDigit
  let after := (finish.takeWhile Text.isBlank).2
  let span := finish.since start.position
  let count : Except Defect Nat :=
    if digits.isEmpty then refuse .noDecimal span
    else if decimalValue digits < 0x100000000 then .ok (decimalValue digits)
    else refuse .decimalTooLarge span
  (count, after)

/-- The bounds of an opening brace, up to the closing one. -/
def readCounts (opening : Position) (cursor : Cursor) : Except Defect (Bounds × Cursor) :=
  let (least, after) := readCount cursor
  match after.peek? with
  | none => refuse .unclosedBounds (after.since opening)
  | some ',' =>
      let beyond := after.advance
      match beyond.peek? with
      | none => refuse .unclosedBounds (beyond.since opening)
      | some '\x7d' => do .ok (⟨← least, none⟩, beyond)
      | some _ => do
          let least ← least
          let (most, finish) := readCount beyond
          .ok (⟨least, some (← most)⟩, finish)
  | some _ => do
      let count ← least
      .ok (⟨count, some count⟩, after)

def Bounds.isOrdered (bounds : Bounds) : Bool := bounds.most.all (bounds.least ≤ ·)

/-- Whether the repetition takes all it can, and the place after a question mark
that says otherwise. -/
def readGreed (cursor : Cursor) : Bool × Cursor :=
  if cursor.peek? = some '?' then (false, cursor.next) else (true, cursor)

def readBraces (cursor : Cursor) : Except Defect (Bounds × Bool × Cursor) := do
  let start := cursor.position
  let inside := cursor.advance
  if inside.isAtEnd then refuse .unclosedBounds (inside.since start)
  else
    let (bounds, closing) ← readCounts start inside
    if closing.peek? = some '\x7d' then
      let (greedy, after) := readGreed closing.advance
      if bounds.isOrdered then .ok (bounds, greedy, after)
      else refuse .orderOfBounds (after.since start)
    else refuse .unclosedBounds (closing.since start)

def signBounds? : Char → Option Bounds
  | '*' => some ⟨0, none⟩
  | '+' => some ⟨1, none⟩
  | '?' => some ⟨0, some 1⟩
  | _ => none

end PointRecords.Regex
