import PointRecords.Regex.Position
import PointRecords.Text.Blank

/-!
# Reading places

A cursor is a place in a pattern and what follows it.  Where blanks are ignored,
`settle` passes over white space and over comments, which go from a number sign
to the end of the line.  Every step to the next character makes what follows
shorter.
-/

namespace PointRecords.Regex

/-- A place in a pattern that is being read. -/
structure Cursor where
  rest : List Char
  position : Position
  ignoresBlanks : Bool

namespace Cursor

def ofPattern (pattern : List Char) : Cursor := ⟨pattern, .first, false⟩

def peek? (cursor : Cursor) : Option Char := cursor.rest.head?

def isAtEnd (cursor : Cursor) : Bool := cursor.rest.isEmpty

def next (cursor : Cursor) : Cursor :=
  match cursor.rest with
  | [] => cursor
  | character :: rest =>
      { cursor with rest := rest, position := cursor.position.after character }

/-- What follows blanks and comments, and where it stands. -/
def skipBlanks (inComment : Bool) (position : Position) : List Char → List Char × Position
  | [] => ([], position)
  | character :: rest =>
      if inComment then skipBlanks (character != '\n') (position.after character) rest
      else if character == '#' then skipBlanks true (position.after character) rest
      else if Text.isBlank character then skipBlanks false (position.after character) rest
      else (character :: rest, position)

/-- The place after blanks and comments, where they are ignored. -/
def settle (cursor : Cursor) : Cursor :=
  if cursor.ignoresBlanks then
    let (rest, position) := skipBlanks false cursor.position cursor.rest
    { cursor with rest := rest, position := position }
  else cursor

/-- The place after the next character and what is ignored behind it. -/
def advance (cursor : Cursor) : Cursor := cursor.next.settle

/-- Nothing, at this place. -/
def here (cursor : Cursor) : Span := .empty cursor.position

def onCharacter (cursor : Cursor) : Span := ⟨cursor.position, cursor.next.position⟩

def since (cursor : Cursor) (start : Position) : Span := ⟨start, cursor.position⟩

/-- The place after a word, if the word follows. -/
def after? : List Char → Cursor → Option Cursor
  | [], cursor => some cursor
  | expected :: word, cursor =>
      if cursor.peek? = some expected then after? word cursor.next else none

theorem skipBlanks_length_le (inComment : Bool) (position : Position) (text : List Char) :
    (skipBlanks inComment position text).1.length ≤ text.length := by
  induction text generalizing inComment position with
  | nil => exact Nat.le_refl _
  | cons character rest ih =>
      simp only [skipBlanks]
      split
      · exact Nat.le_succ_of_le (ih _ _)
      · split
        · exact Nat.le_succ_of_le (ih _ _)
        · split
          · exact Nat.le_succ_of_le (ih _ _)
          · exact Nat.le_refl _

theorem settle_length_le (cursor : Cursor) :
    cursor.settle.rest.length ≤ cursor.rest.length := by
  unfold settle
  split
  · exact skipBlanks_length_le false cursor.position cursor.rest
  · exact Nat.le_refl _

theorem advance_shorter {cursor : Cursor} {character : Char} {rest : List Char}
    (following : cursor.rest = character :: rest) :
    cursor.advance.rest.length < cursor.rest.length := by
  have stepped : cursor.next.rest = rest := by
    unfold next
    rw [following]
  have bound := settle_length_le cursor.next
  rw [stepped] at bound
  unfold advance
  rw [following, List.length_cons]
  exact Nat.lt_succ_of_le bound

/-- The characters that follow as long as they are accepted, and the place after
them. -/
def takeWhile (accepts : Char → Bool) (cursor : Cursor) : List Char × Cursor :=
  match following : cursor.rest with
  | [] => ([], cursor)
  | character :: _ =>
      if accepts character then
        have := advance_shorter following
        let (taken, after) := cursor.advance.takeWhile accepts
        (character :: taken, after)
      else ([], cursor)
termination_by cursor.rest.length
decreasing_by exact this

end Cursor

end PointRecords.Regex
