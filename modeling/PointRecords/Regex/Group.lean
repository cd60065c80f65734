import PointRecords.Regex.Cursor
import PointRecords.Regex.Defect
import PointRecords.Regex.Tree
import PointRecords.Text.Letter

/-!
# Openings of groups

A parenthesis opens a numbered group, which may have a name, or a group that sets
flags inside; or it stands before flags that are set from there on.
-/

namespace PointRecords.Regex

/-- What a parenthesis opens. -/
inductive Opening
  | numbered
  | named (name : List Char) (span : Span)
  | plain (flags : Flags)
  | flags (flags : Flags)

def isOfName (isFirst : Bool) (character : Char) : Bool :=
  if isFirst then character == '_' || Text.isLetter character
  else
    character == '_' || character == '.' || character == '[' || character == ']' ||
      Text.isLetterOrNumber character

/-- The rest of a name, and the place of the bracket that closes it. -/
def readName : Nat → Bool → Cursor → Except Defect (List Char × Cursor)
  | 0, _, cursor => refuse .unclosedName cursor.here
  | steps + 1, isFirst, cursor =>
      match cursor.peek? with
      | none => refuse .unclosedName cursor.here
      | some '>' => .ok ([], cursor)
      | some character =>
          if isOfName isFirst character then do
            let (name, closing) ← readName steps false cursor.next
            .ok (character :: name, closing)
          else refuse .characterOfName cursor.onCharacter

def readNamed (cursor : Cursor) : Except Defect (Opening × Cursor) := do
  let (name, closing) ← readName cursor.rest.length true cursor
  if name.isEmpty then refuse .emptyName cursor.here
  else .ok (.named name (closing.since cursor.position), closing.next)

def Flag.ofLetter? : Char → Option Flag
  | 'i' => some .caseless
  | 'm' => some .manyLines
  | 's' => some .dotMatchesLineFeed
  | 'U' => some .swapsGreed
  | 'u' => some .unicode
  | 'R' => some .returnsEndLines
  | 'x' => some .ignoresBlanks
  | _ => none

/-- The flags read so far, each with its place, the latest first; once there is a
`negation`, flags are switched off. -/
structure FlagList where
  flags : List (Flag × Bool × Span)
  negation : Option Span

namespace FlagList

def empty : FlagList := ⟨[], none⟩

/-- Add the flag or the negation that a character stands for. -/
def push (list : FlagList) (character : Char) (span : Span) : Except Defect FlagList :=
  if character = '-' then
    match list.negation with
    | some earlier => .error ⟨.repeatedNegation, span, some earlier⟩
    | none => .ok { list with negation := some span }
  else
    match Flag.ofLetter? character with
    | none => refuse .unknownFlag span
    | some flag =>
        match list.flags.find? (·.1 = flag) with
        | some (_, _, earlier) => .error ⟨.repeatedFlag, span, some earlier⟩
        | none => .ok { list with flags := (flag, list.negation.isNone, span) :: list.flags }

def close (list : FlagList) : Flags :=
  list.flags.reverse.map fun (flag, isOn, _) => (flag, isOn)

end FlagList

/-- Flags up to a colon or a closing parenthesis, that character, and the place
of it.  A negation must be followed by a flag. -/
def readFlags : Nat → FlagList → Option Span → Cursor → Except Defect (Flags × Char × Cursor)
  | 0, _, _, cursor => refuse .endInFlags cursor.here
  | steps + 1, list, dangling, cursor =>
      match cursor.peek? with
      | none => refuse .endInFlags cursor.here
      | some character =>
          if character = ':' ∨ character = ')' then
            match dangling with
            | some span => refuse .negationOfNothing span
            | none => .ok (list.close, character, cursor)
          else do
            let span := cursor.onCharacter
            let longer ← list.push character span
            readFlags steps longer (if character = '-' then some span else none) cursor.next

/-- What follows an opening parenthesis and its question mark: `mark` is where the
mark stands. -/
def readFlagged (opening mark : Span) (cursor : Cursor) : Except Defect (Opening × Cursor) :=
  if cursor.isAtEnd then refuse .unclosedGroup opening
  else do
    let (flags, closing, after) ← readFlags cursor.rest.length .empty none cursor
    if closing = ':' then .ok (.plain flags, after.next)
    else if flags.isEmpty then refuse .nothingToRepeat mark
    else .ok (.flags flags, after.next)

def lookArounds : List (List Char) :=
  ["?=".toList, "?!".toList, "?<=".toList, "?<!".toList]

def readOpening (cursor : Cursor) : Except Defect (Opening × Cursor) :=
  let inside := cursor.advance
  match lookArounds.findSome? fun word => inside.after? word with
  | some after => refuse .lookAround (after.since cursor.position)
  | none =>
      match inside.after? "?P<".toList, inside.after? "?<".toList, inside.after? "?".toList with
      | some name, _, _ => readNamed name
      | _, some name, _ => readNamed name
      | _, _, some after => readFlagged cursor.onCharacter inside.here after
      | none, none, none => .ok (.numbered, inside)

end PointRecords.Regex
