import PointRecords.Regex.Bounds
import PointRecords.Regex.Bracket
import PointRecords.Regex.Group

/-!
# Reading patterns

A pattern is read item by item.  The groups that are open are kept on a stack,
each with what has been read before it.
-/

namespace PointRecords.Regex

/-- The branches of a group: those that are complete and the items of the last
one, the latest first.  `start` is where the first branch begins and `branch`
where the last one does. -/
structure Level where
  start : Position
  branch : Position
  branches : List Tree
  items : List Tree

namespace Level

def new (position : Position) : Level := ⟨position, position, [], []⟩

def push (level : Level) (item : Tree) : Level := { level with items := item :: level.items }

def lastBranch (level : Level) (finish : Position) : Tree :=
  match level.items with
  | [] => .empty ⟨level.branch, finish⟩
  | [item] => item
  | items => .concatenation ⟨level.branch, finish⟩ items.reverse

def divide (level : Level) (bar : Cursor) : Level :=
  { level with
    branch := bar.next.position
    branches := level.lastBranch bar.position :: level.branches
    items := [] }

def close (level : Level) (finish : Position) : Tree :=
  match level.branches with
  | [] => level.lastBranch finish
  | branches =>
      .alternation ⟨level.start, finish⟩ (level.lastBranch finish :: branches).reverse

/-- The last item, if it can be repeated, and the group without it. -/
def lastItem? (level : Level) : Option (Tree × Level) :=
  match level.items with
  | [] | .empty _ :: _ | .flags _ _ :: _ => none
  | item :: items => some (item, { level with items := items })

end Level

/-- A group whose end has not been read. -/
structure OpenGroup where
  opening : Span
  kind : GroupKind
  ignoresBlanks : Bool
  around : Level

/-- How far a pattern has been read: the innermost group, those around it, how
many groups are numbered, and the names of groups. -/
structure Reading where
  cursor : Cursor
  level : Level
  outer : List OpenGroup
  numbered : Nat
  names : List (List Char × Span)

namespace Reading

def ofPattern (pattern : List Char) : Reading :=
  ⟨.ofPattern pattern, .new .first, [], 0, []⟩

def push (reading : Reading) (item : Tree) (after : Cursor) : Reading :=
  { reading with cursor := after, level := reading.level.push item }

def enter (reading : Reading) (kind : GroupKind) (after : Cursor) : Reading :=
  let inner := kind.flags.get? .ignoresBlanks
  { reading with
    cursor := { after with ignoresBlanks := inner.getD after.ignoresBlanks }
    level := .new after.position
    outer := ⟨reading.cursor.onCharacter, kind, after.ignoresBlanks, reading.level⟩ ::
      reading.outer }

def enterNumbered (reading : Reading) (after : Cursor) : Reading :=
  let number := reading.numbered + 1
  { reading.enter (.numbered number) after with numbered := number }

def openGroup (reading : Reading) : Except Defect Reading := do
  let (opening, after) ← readOpening reading.cursor
  match opening with
  | .numbered => .ok (reading.enterNumbered after)
  | .named name span =>
      match reading.names.find? (·.1 = name) with
      | some (_, earlier) => .error ⟨.repeatedName, span, some earlier⟩
      | none =>
          .ok { reading.enterNumbered after with names := (name, span) :: reading.names }
  | .plain flags => .ok (reading.enter (.plain flags) after)
  | .flags flags =>
      let ignored := (flags.get? .ignoresBlanks).getD after.ignoresBlanks
      .ok (reading.push (.flags (after.since reading.cursor.position) flags)
        { after with ignoresBlanks := ignored })

def closeGroup (reading : Reading) : Except Defect Reading :=
  match reading.outer with
  | [] => refuse .unopenedGroup reading.cursor.onCharacter
  | group :: outer =>
      let after := reading.cursor.next
      let tree := reading.level.close reading.cursor.position
      let item := .group (after.since group.opening.start) group.kind tree
      .ok { reading with
        cursor := { after with ignoresBlanks := group.ignoresBlanks }
        level := group.around.push item
        outer := outer }

def divide (reading : Reading) : Reading :=
  { reading with cursor := reading.cursor.next, level := reading.level.divide reading.cursor }

/-- Repeat the last item; `read` reads the bounds at the cursor. -/
def repeatLast (reading : Reading) (read : Cursor → Except Defect (Bounds × Bool × Cursor)) :
    Except Defect Reading :=
  match reading.level.lastItem? with
  | none => refuse .nothingToRepeat reading.cursor.here
  | some (item, level) => do
      let (bounds, greedy, after) ← read reading.cursor
      let tree := .repetition (after.since item.span.start) bounds greedy item
      .ok { reading with cursor := after, level := level.push tree }

def readAtom (cursor : Cursor) (character : Char) : Except Defect (Atom × Cursor) :=
  let span := cursor.onCharacter
  match character with
  | '\\' => readEscape cursor
  | '.' => .ok (.dot span, cursor.next)
  | '^' => .ok (.assertion span .lineStart, cursor.next)
  | '$' => .ok (.assertion span .lineEnd, cursor.next)
  | _ => .ok (plainItem cursor character, cursor.next)

def readItem (reading : Reading) (character : Char) : Except Defect Reading :=
  match character with
  | '(' => reading.openGroup
  | ')' => reading.closeGroup
  | '|' => .ok reading.divide
  | '[' => do
      let (tree, after) ← readBracketed reading.cursor
      .ok (reading.push tree after)
  | '\x7b' => reading.repeatLast readBraces
  | _ =>
      match signBounds? character with
      | some bounds =>
          reading.repeatLast fun cursor => .ok (bounds, readGreed cursor.next)
      | none => do
          let (piece, after) ← readAtom reading.cursor character
          .ok (reading.push (.atom piece) after)

/-- The pattern, once its end has been reached. -/
def finish (reading : Reading) : Except Defect Tree :=
  match reading.outer with
  | [] => .ok (reading.level.close reading.cursor.position)
  | group :: _ => refuse .unclosedGroup group.opening

/-- Read the rest of a pattern.  Every item takes a character, so as many steps
as characters suffice. -/
def readItems : Nat → Reading → Except Defect Tree
  | 0, reading => reading.finish
  | steps + 1, reading =>
      let reading := { reading with cursor := reading.cursor.settle }
      match reading.cursor.peek? with
      | none => reading.finish
      | some character => do readItems steps (← reading.readItem character)

end Reading

def Tree.read (pattern : List Char) : Except Defect Tree :=
  (Reading.ofPattern pattern).readItems pattern.length

end PointRecords.Regex
