import PointRecords.Regex.Cursor
import PointRecords.Regex.Defect
import PointRecords.Regex.Tree
import PointRecords.Text.Hexadecimal

/-!
# Escapes

What follows a backslash: a character that would mean something else without it,
a control character by its letter, a character by its code point, a class, or a
place.
-/

namespace PointRecords.Regex

/-- A backslash before the character makes it stand for itself. -/
def isEscapable (character : Char) : Bool :=
  character.toNat < 0x80 && !character.isAlphanum && character != '<' && character != '>'

def scalar? (code : Nat) : Option Char :=
  if code.isValidChar then some (Char.ofNat code) else none

/-- The character that hexadecimal digits between two places stand for. -/
def hexadecimalCharacter (digits : List Char) (span : Span) : Except Defect Char :=
  match scalar? (Text.ofHexadecimal digits) with
  | some character => .ok character
  | none => refuse .notScalar span

/-- A known number of hexadecimal digits. -/
def readDigits : Nat → Cursor → Except Defect (List Char × Cursor)
  | 0, cursor => .ok ([], cursor)
  | count + 1, cursor =>
      match cursor.peek? with
      | none => refuse .endInEscape cursor.here
      | some digit =>
          if Text.isHexDigit digit then do
            let (digits, after) ← readDigits count cursor.advance
            .ok (digit :: digits, after)
          else refuse .notHexadecimal cursor.onCharacter

/-- A character by a known number of hexadecimal digits. -/
def readFixedCode (count : Nat) (cursor : Cursor) : Except Defect (Char × Cursor) := do
  let (digits, after) ← readDigits count cursor
  let character ← hexadecimalCharacter digits (after.since cursor.position)
  .ok (character, after)

/-- A character by hexadecimal digits between braces; the cursor stands at the
opening one. -/
def readBracedCode (cursor : Cursor) : Except Defect (Char × Cursor) :=
  let (digits, closing) := cursor.advance.takeWhile Text.isHexDigit
  match closing.peek? with
  | none => refuse .endInEscape (closing.since cursor.position)
  | some '\x7d' =>
      let after := closing.advance
      if digits.isEmpty then refuse .noHexadecimal (after.since cursor.position)
      else do
        let character ← hexadecimalCharacter digits ⟨cursor.next.position, closing.position⟩
        .ok (character, after)
  | some _ => refuse .notHexadecimal closing.onCharacter

/-- A character by its code point.  The cursor stands at the letter that says how
many digits there are without braces. -/
def readCode (start : Position) (letter : Char) (cursor : Cursor) :
    Except Defect (Atom × Cursor) :=
  let digits := cursor.advance
  let count := if letter = 'x' then 2 else if letter = 'u' then 4 else 8
  match digits.peek? with
  | none => refuse .endInEscape digits.here
  | some '\x7b' => do
      let (character, after) ← readBracedCode digits
      .ok (.literal ⟨after.since start, character, false⟩, after)
  | some _ => do
      let (character, after) ← readFixedCode count digits
      .ok (.literal ⟨after.since start, character, count == 2⟩, after)

/-- A class of the characters with some property, named by one letter or between
braces; the name may give a value. -/
def readProperty (start : Position) (cursor : Cursor) : Except Defect (Atom × Cursor) :=
  let name := cursor.advance
  match name.peek? with
  | none => refuse .endInEscape name.here
  | some '\x7b' =>
      let (words, closing) := name.advance.takeWhile (· != '\x7d')
      if closing.isAtEnd then refuse .endInEscape closing.here
      else
        let after := closing.next
        .ok (.property (after.since start) words (words.contains ':' || words.contains '='), after)
  | some '\\' => refuse .badProperty name.onCharacter
  | some letter =>
      let after := name.advance
      .ok (.property (after.since start) [letter] false, after)

/-- The class of a letter, and whether it is negated. -/
def shorthand? : Char → Option (AsciiClass × Bool)
  | 'd' => some (.digit, false)
  | 's' => some (.space, false)
  | 'w' => some (.word, false)
  | 'D' => some (.digit, true)
  | 'S' => some (.space, true)
  | 'W' => some (.word, true)
  | _ => none

def control? : Char → Option Char
  | 'a' => some '\x07'
  | 'f' => some '\x0c'
  | 't' => some '\t'
  | 'n' => some '\n'
  | 'r' => some '\r'
  | 'v' => some '\x0b'
  | _ => none

def assertion? : Char → Option Assertion
  | 'A' => some .textStart
  | 'z' => some .textEnd
  | 'b' => some (.word .either)
  | 'B' => some (.word .neither)
  | '<' => some (.word .start)
  | '>' => some (.word .finish)
  | _ => none

def WordEdge.ofName? (name : List Char) : Option WordEdge :=
  if name = "start".toList then some .start
  else if name = "end".toList then some .finish
  else if name = "start-half".toList then some .startHalf
  else if name = "end-half".toList then some .finishHalf
  else none

def isOfEdgeName (character : Char) : Bool := character.isAlpha || character == '-'

/-- The edge of a word that is named between braces, if what stands between them
begins like a name; otherwise the braces say how often the edge is repeated. -/
def readWordEdge? (start : Position) (cursor : Cursor) :
    Except Defect (Option (WordEdge × Cursor)) :=
  let contents := cursor.advance
  match contents.peek? with
  | none => refuse .endInWordBoundary (contents.since start)
  | some character =>
      if !isOfEdgeName character then .ok none
      else
        let (name, closing) := contents.takeWhile isOfEdgeName
        if closing.peek? = some '\x7d' then
          match WordEdge.ofName? name with
          | some edge => .ok (some (edge, closing.next))
          | none => refuse .unknownWordBoundary (closing.since contents.position)
        else refuse .unclosedWordBoundary (closing.since cursor.position)

def readAssertion (start : Position) (assertion : Assertion) (cursor : Cursor) :
    Except Defect (Atom × Cursor) :=
  let plain : Atom × Cursor := (.assertion (cursor.since start) assertion, cursor)
  if assertion = .word .either ∧ cursor.peek? = some '\x7b' then do
    match ← readWordEdge? start cursor with
    | some (edge, after) => .ok (.assertion (after.since start) (.word edge), after)
    | none => .ok plain
  else .ok plain

/-- What a backslash and the character after it stand for.  The cursor stands at
the backslash. -/
def readEscape (cursor : Cursor) : Except Defect (Atom × Cursor) :=
  let start := cursor.position
  let marked := cursor.next
  let after := marked.next
  let span := after.since start
  match marked.peek? with
  | none => refuse .endInEscape (marked.since start)
  | some mark =>
      if mark.isDigit then refuse .backreference span
      else if mark = 'x' ∨ mark = 'u' ∨ mark = 'U' then readCode start mark marked
      else if mark = 'p' ∨ mark = 'P' then readProperty start marked
      else if isEscapable mark then .ok (.literal ⟨span, mark, false⟩, after)
      else
        match shorthand? mark, control? mark, assertion? mark with
        | some (members, negated), _, _ => .ok (.shorthand span members negated, after)
        | _, some character, _ => .ok (.literal ⟨span, character, false⟩, after)
        | _, _, some assertion => readAssertion start assertion after
        | _, _, _ => refuse .unknownEscape span

end PointRecords.Regex
