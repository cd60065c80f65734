/-!
# Sets of code points

A set is a list of ranges in increasing order that neither overlap nor touch.
With it goes whether the set is known to hold, with every letter, the same letter
in the other case.  Surrogates are no characters, so the code points on either
side of them are neighbours.
-/

namespace PointRecords.Regex

def lastCode : Nat := 0x10ffff

def codeAfter (code : Nat) : Nat := if code = 0xd7ff then 0xe000 else code + 1

def codeBefore (code : Nat) : Nat := if code = 0xe000 then 0xd7ff else code - 1

/-- The range between two code points in either order. -/
def rangeBetween (first second : Nat) : Nat × Nat := (min first second, max first second)

/-- Add a range; ranges that overlap or touch become one. -/
def insertRange (first last : Nat) : List (Nat × Nat) → List (Nat × Nat)
  | [] => [(first, last)]
  | (low, high) :: rest =>
      if last + 1 < low then (first, last) :: (low, high) :: rest
      else if high + 1 < first then (low, high) :: insertRange first last rest
      else insertRange (min first low) (max last high) rest

/-- The ranges between ranges, from a code point on. -/
def gapsFrom (start : Nat) : List (Nat × Nat) → List (Nat × Nat)
  | [] => if start ≤ lastCode then [(start, lastCode)] else []
  | (low, high) :: rest => rangeBetween start (codeBefore low) :: gapsFrom (codeAfter high) rest

def gaps : List (Nat × Nat) → List (Nat × Nat)
  | (0, high) :: rest => gapsFrom (codeAfter high) rest
  | ranges => gapsFrom 0 ranges

def commonRange (first second : Nat × Nat) : List (Nat × Nat) :=
  let low := max first.1 second.1
  let high := min first.2 second.2
  if low ≤ high then [(low, high)] else []

def remainingRanges (taken range : Nat × Nat) : List (Nat × Nat) :=
  if (commonRange taken range).isEmpty then [range]
  else
    (if range.1 < taken.1 then [(range.1, codeBefore taken.1)] else []) ++
      (if taken.2 < range.2 then [(codeAfter taken.2, range.2)] else [])

/-- The same letters in the other case. -/
def otherCase (range : Nat × Nat) : List (Nat × Nat) :=
  (commonRange range (0x61, 0x7a)).map (fun (low, high) => (low - 32, high - 32)) ++
    (commonRange range (0x41, 0x5a)).map fun (low, high) => (low + 32, high + 32)

/-- A set of code points. -/
structure CodeSet where
  ranges : List (Nat × Nat)
  isFolded : Bool
  deriving DecidableEq

namespace CodeSet

def empty : CodeSet := ⟨[], true⟩

def ofRanges (ranges : List (Nat × Nat)) : CodeSet :=
  ⟨ranges.foldl (fun united (first, last) => insertRange first last united) [], ranges.isEmpty⟩

/-- Add a range, about whose cases nothing is known. -/
def push (set : CodeSet) (first last : Nat) : CodeSet :=
  ⟨insertRange first last set.ranges, false⟩

def union (set other : CodeSet) : CodeSet :=
  if other.ranges.isEmpty || set.ranges == other.ranges then set
  else
    ⟨other.ranges.foldl (fun united (first, last) => insertRange first last united) set.ranges,
      set.isFolded && other.isFolded⟩

def intersection (set other : CodeSet) : CodeSet :=
  if set.ranges.isEmpty then set
  else if other.ranges.isEmpty then empty
  else
    ⟨set.ranges.flatMap fun range => other.ranges.flatMap (commonRange range),
      set.isFolded && other.isFolded⟩

/-- What the first of two sets holds and the second does not. -/
def difference (set other : CodeSet) : CodeSet :=
  if set.ranges.isEmpty || other.ranges.isEmpty then set
  else
    ⟨other.ranges.foldl (fun left taken => left.flatMap (remainingRanges taken)) set.ranges,
      set.isFolded && other.isFolded⟩

def symmetricDifference (set other : CodeSet) : CodeSet :=
  (set.union other).difference (set.intersection other)

def complement (set : CodeSet) : CodeSet :=
  if set.ranges.isEmpty then ⟨[(0, lastCode)], true⟩ else { set with ranges := gaps set.ranges }

/-- A set with the ASCII letters in both cases. -/
def folded (set : CodeSet) : CodeSet :=
  if set.isFolded then set
  else { ofRanges (set.ranges ++ set.ranges.flatMap otherCase) with isFolded := true }

/-- The case of all that a set holds is known without a table. -/
def needsNoTable (set : CodeSet) : Bool := set.isFolded || set.ranges.isEmpty

end CodeSet

end PointRecords.Regex
