import PointRecords.Regex.Escape

/-!
# Classes between brackets

Brackets hold characters, ranges, classes and further brackets, all of which are
united; operators between them combine what stands on their left with what
stands on their right.  The brackets that are open are kept on a stack.
-/

namespace PointRecords.Regex

/-- Items that are to be united, the latest first. -/
structure ItemList where
  span : Span
  items : List ClassTree

namespace ItemList

def new (position : Position) : ItemList := ⟨.empty position, []⟩

def push (list : ItemList) (item : ClassTree) : ItemList :=
  ⟨if list.items.isEmpty then item.span else list.span.through item.span, item :: list.items⟩

def close (list : ItemList) : ClassTree :=
  match list.items with
  | [] => .empty list.span
  | [item] => item
  | items => .union list.span items.reverse

end ItemList

/-- An open bracket: how it begins, what an operator has already on its left, and
the items since then. -/
structure Bracket where
  opening : Span
  negated : Bool
  left : Option (ClassTree × SetOperation)
  items : ItemList

namespace Bracket

def push (bracket : Bracket) (item : ClassTree) : Bracket :=
  { bracket with items := bracket.items.push item }

def contents (bracket : Bracket) : ClassTree :=
  let right := bracket.items.close
  match bracket.left with
  | none => right
  | some (left, operation) => .combination (left.span.through right.span) operation left right

/-- Put everything so far on the left of an operator. -/
def operate (bracket : Bracket) (operation : SetOperation) (after : Cursor) : Bracket :=
  { bracket with left := some (bracket.contents, operation), items := .new after.position }

end Bracket

/-- The next character, as it stands. -/
def plainItem (cursor : Cursor) (character : Char) : Atom :=
  .literal ⟨cursor.onCharacter, character, false⟩

/-- Hyphens at the beginning of a class stand for themselves; `none` if the
pattern ends with them. -/
def readHyphens : Nat → ItemList → Cursor → Option (ItemList × Cursor)
  | 0, items, cursor => some (items, cursor)
  | steps + 1, items, cursor =>
      if cursor.peek? = some '-' then
        if cursor.advance.isAtEnd then none
        else readHyphens steps (items.push (.atom (plainItem cursor '-'))) cursor.advance
      else some (items, cursor)

/-- Open a bracket, up to its first proper item.  A closing bracket in the first
place stands for itself. -/
def openBracket (cursor : Cursor) : Except Defect (Bracket × Cursor) :=
  let start := cursor.position
  let inside := cursor.advance
  let negated := inside.peek? == some '^'
  let members := if negated then inside.advance else inside
  if members.isAtEnd then refuse .unclosedClass (members.since start)
  else
    match readHyphens members.rest.length (.new members.position) members with
    | none => refuse .unclosedClass (.empty start)
    | some (items, after) =>
        if items.items.isEmpty && after.peek? == some ']' then
          let beyond := after.advance
          if beyond.isAtEnd then refuse .unclosedClass (beyond.since start)
          else
            .ok (⟨beyond.since start, negated, none, items.push (.atom (plainItem after ']'))⟩,
              beyond)
        else .ok (⟨after.since start, negated, none, items⟩, after)

/-- A class by its name between colons.  Anything else in its place is an
ordinary bracket. -/
def namedClass? (cursor : Cursor) : Option (ClassTree × Cursor) := do
  let colon ← cursor.after? ['[', ':']
  let negated := colon.peek? == some '^'
  let name := if negated then colon.next else colon
  let letters := name.rest.takeWhile (· != ':')
  let closing ← name.after? letters
  let after ← closing.after? [':', ']']
  let members ← AsciiClass.ofName? letters
  some (.named (after.since cursor.position) members negated, after)

def readMember (cursor : Cursor) (character : Char) : Except Defect (Atom × Cursor) :=
  if character = '\\' then readEscape cursor
  else .ok (plainItem cursor character, cursor.next)

def asMember : Atom → Except Defect ClassTree
  | .assertion span _ => refuse .memberOfClass span
  | .dot span => refuse .memberOfClass span
  | atom => .ok (.atom atom)

def asLiteral : Atom → Except Defect Literal
  | .literal character => .ok character
  | atom => refuse .endOfRange atom.span

/-- The character behind the next one and what is ignored between them.  Only one
number sign is passed over. -/
def peekBehind? (cursor : Cursor) : Option Char :=
  let behind := cursor.next.rest
  if cursor.ignoresBlanks then
    match behind.dropWhile Text.isBlank with
    | '#' :: rest => (rest.dropWhile Text.isBlank).head?
    | rest => rest.head?
  else behind.head?

/-- A hyphen at the cursor stands between the ends of a range. -/
def isRange (cursor : Cursor) : Bool :=
  cursor.peek? == some '-' && peekBehind? cursor != some ']' && peekBehind? cursor != some '-'

def range (first last : Atom) : Except Defect ClassTree := do
  let low ← asLiteral first
  let high ← asLiteral last
  let span := first.span.through last.span
  if low.character ≤ high.character then .ok (.range span low high)
  else refuse .orderOfRange span

def readItem (opening : Span) (cursor : Cursor) (character : Char) :
    Except Defect (ClassTree × Cursor) := do
  let (first, after) ← readMember cursor character
  let after := after.settle
  if after.isAtEnd then refuse .unclosedClass opening
  else if isRange after then
    let beyond := after.advance
    match beyond.peek? with
    | none => refuse .unclosedClass opening
    | some character => do
        let (last, finish) ← readMember beyond character
        .ok (← range first last, finish)
  else .ok (← asMember first, after)

def operator? (cursor : Cursor) : Option (SetOperation × Cursor) :=
  match cursor.after? ['&', '&'], cursor.after? ['-', '-'], cursor.after? ['~', '~'] with
  | some after, _, _ => some (.intersection, after)
  | _, some after, _ => some (.difference, after)
  | _, _, some after => some (.symmetricDifference, after)
  | none, none, none => none

/-- Read up to the end of the outermost bracket; `outer` are the brackets around
the innermost one.  Every step takes a character, so as many steps as characters
suffice. -/
def readClass : Nat → Bracket → List Bracket → Cursor → Except Defect (Tree × Cursor)
  | 0, inner, _, _ => refuse .unclosedClass inner.opening
  | steps + 1, inner, outer, cursor =>
      let cursor := cursor.settle
      match cursor.peek? with
      | none => refuse .unclosedClass inner.opening
      | some ']' =>
          let after := cursor.next
          let span := after.since inner.opening.start
          match outer with
          | [] => .ok (.bracketed span inner.negated inner.contents, after)
          | around :: further =>
              let item := .bracketed span inner.negated inner.contents
              readClass steps (around.push item) further after
      | some '[' =>
          match namedClass? cursor with
          | some (item, after) => readClass steps (inner.push item) outer after
          | none => do
              let (nested, after) ← openBracket cursor
              readClass steps nested (inner :: outer) after
      | some character =>
          match operator? cursor with
          | some (operation, after) => readClass steps (inner.operate operation after) outer after
          | none => do
              let (item, after) ← readItem inner.opening cursor character
              readClass steps (inner.push item) outer after

def readBracketed (cursor : Cursor) : Except Defect (Tree × Cursor) := do
  let (bracket, after) ← openBracket cursor
  readClass cursor.rest.length bracket [] after

end PointRecords.Regex
