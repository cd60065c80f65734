/-!
# Places in a pattern

A place is where a character of a pattern begins, or where the pattern ends.  A
line feed ends a line; lines and columns are counted from one.
-/

namespace PointRecords.Regex

/-- A place in a pattern. -/
structure Position where
  line : Nat
  column : Nat
  deriving DecidableEq

namespace Position

def first : Position := ⟨1, 1⟩

def after (position : Position) (character : Char) : Position :=
  if character = '\n' then ⟨position.line + 1, 1⟩ else ⟨position.line, position.column + 1⟩

end Position

/-- The part of a pattern between two places. -/
structure Span where
  start : Position
  finish : Position
  deriving DecidableEq

namespace Span

/-- The part of a pattern that holds nothing. -/
def empty (position : Position) : Span := ⟨position, position⟩

/-- The part from the beginning of one to the end of another. -/
def through (first last : Span) : Span := ⟨first.start, last.finish⟩

def isOnOneLine (span : Span) : Bool := span.start.line == span.finish.line

end Span

end PointRecords.Regex
