import PointRecords.Regex.Defect
import PointRecords.Regex.Expression

/-!
# What patterns mean

The meaning of a tree depends on the flags that are set where it stands.  Flags
hold up to the end of the group in which they are set.  Without the flag for
Unicode a pattern is about ASCII characters only, as it may never match a part of
a character; with it, no table of properties or of cases is at hand.
-/

namespace PointRecords.Regex

/-- The flags that are set at some place. -/
structure Modes where
  caseless : Bool
  manyLines : Bool
  dotMatchesLineFeed : Bool
  swapsGreed : Bool
  unicode : Bool
  returnsEndLines : Bool
  deriving DecidableEq

namespace Modes

/-- The flags that are set at the beginning. -/
def standard : Modes := ⟨false, false, false, false, true, false⟩

def set (modes : Modes) (flags : Flags) : Modes :=
  { caseless := (flags.get? .caseless).getD modes.caseless
    manyLines := (flags.get? .manyLines).getD modes.manyLines
    dotMatchesLineFeed := (flags.get? .dotMatchesLineFeed).getD modes.dotMatchesLineFeed
    swapsGreed := (flags.get? .swapsGreed).getD modes.swapsGreed
    unicode := (flags.get? .unicode).getD modes.unicode
    returnsEndLines := (flags.get? .returnsEndLines).getD modes.returnsEndLines }

/-- A set in both cases, if letters are not told apart by their case. -/
def fold (modes : Modes) (span : Span) (set : CodeSet) : Except Defect CodeSet :=
  if !modes.caseless then .ok set
  else if !modes.unicode then .ok set.folded
  else if set.needsNoTable then .ok { set with isFolded := true }
  else refuse .noCaseTable span

/-- A set or what it leaves out.  What a set of ASCII characters leaves out may
be parts of characters. -/
def negate (modes : Modes) (span : Span) (negated : Bool) (set : CodeSet) :
    Except Defect CodeSet :=
  if !negated then .ok set
  else if modes.unicode then .ok set.complement
  else refuse .invalidUtf8 span

def classSet (modes : Modes) (span : Span) (negated : Bool) (set : CodeSet) :
    Except Defect CodeSet := do
  modes.negate span negated (← modes.fold span set)

def classCode (modes : Modes) (character : Literal) : Except Defect Nat :=
  let code := character.character.toNat
  if modes.unicode || code < 0x80 then .ok code
  else if character.isByte then refuse .invalidUtf8 character.span
  else refuse .unicodeNotAllowed character.span

end Modes

/-- The name of a property as it is looked up: spaces, underscores and hyphens do
not matter, nor do case and a leading `is`. -/
def propertyName (name : List Char) : List Char :=
  let stem :=
    if (name.take 2).map Char.toLower = ['i', 's'] then name.drop 2 else name
  (stem.filter fun character =>
    character != ' ' && character != '_' && character != '-' && character.toNat < 0x80).map
      Char.toLower

/-- The names that are kept for general categories. -/
def categoryNames : List (List Char) := [['c', 'f'], ['s', 'c'], ['l', 'c']]

/-- No property is known. -/
def refuseProperty {α : Type} (modes : Modes) (span : Span) (name : List Char)
    (hasValue : Bool) : Except Defect α :=
  if !modes.unicode then refuse .unicodeNotAllowed span
  else if !hasValue && categoryNames.contains (propertyName name) then
    refuse .unknownPropertyValue span
  else refuse .unknownProperty span

def shorthandSet (modes : Modes) (span : Span) (members : AsciiClass) (negated : Bool) :
    Except Defect CodeSet :=
  if modes.unicode then refuse .unknownShorthand span
  else modes.negate span negated (.ofRanges members.ranges)

def Atom.addTo (modes : Modes) (set : CodeSet) : Atom → Except Defect CodeSet
  | .literal character => do
      let code ← modes.classCode character
      .ok (set.push code code)
  | .property span name hasValue => refuseProperty modes span name hasValue
  | .shorthand span members negated => do
      .ok (set.union (← shorthandSet modes span members negated))
  | .dot span | .assertion span _ => refuse .memberOfClass span

def SetOperation.apply : SetOperation → CodeSet → CodeSet → CodeSet
  | .intersection => CodeSet.intersection
  | .difference => CodeSet.difference
  | .symmetricDifference => CodeSet.symmetricDifference

mutual

def ClassTree.addTo (modes : Modes) (set : CodeSet) : ClassTree → Except Defect CodeSet
  | .empty _ => .ok set
  | .atom piece => piece.addTo modes set
  | .range _ first last => do
      let low ← modes.classCode first
      let high ← modes.classCode last
      .ok (set.push low high)
  | .named span members negated => do
      .ok (set.union (← modes.classSet span negated (.ofRanges members.ranges)))
  | .bracketed span negated contents => do
      let inner ← contents.addTo modes .empty
      .ok (set.union (← modes.classSet span negated inner))
  | .union _ items => ClassTree.addAllTo modes set items
  | .combination _ operation left right => do
      let first ← left.addTo modes .empty
      let second ← right.addTo modes .empty
      let second ← modes.fold right.span second
      let first ← modes.fold left.span first
      .ok (set.union (operation.apply first second))

def ClassTree.addAllTo (modes : Modes) (set : CodeSet) : List ClassTree → Except Defect CodeSet
  | [] => .ok set
  | item :: rest => do ClassTree.addAllTo modes (← item.addTo modes set) rest

end

def Assertion.look (modes : Modes) : Assertion → Look
  | .lineStart => if modes.manyLines then .lineStart modes.returnsEndLines else .textStart
  | .lineEnd => if modes.manyLines then .lineEnd modes.returnsEndLines else .textEnd
  | .textStart => .textStart
  | .textEnd => .textEnd
  | .word edge => .word edge modes.unicode

def Literal.meaning (modes : Modes) (literal : Literal) : Except Defect Expression :=
  let code := literal.character.toNat
  if modes.unicode then
    if modes.caseless then refuse .noCaseTable literal.span else .ok (.literal [literal.character])
  else if literal.isByte && 0x80 ≤ code then refuse .invalidUtf8 literal.span
  else if modes.caseless && literal.character.isAlpha then
    .ok (.ofRanges (CodeSet.ofRanges [(code, code)]).folded.ranges)
  else .ok (.literal [literal.character])

def dotSet (modes : Modes) : CodeSet :=
  if modes.dotMatchesLineFeed then .ofRanges [(0, lastCode)]
  else if modes.returnsEndLines then .ofRanges [(0, 9), (11, 12), (14, lastCode)]
  else .ofRanges [(0, 9), (11, lastCode)]

def Atom.meaning (modes : Modes) : Atom → Except Defect Expression
  | .literal character => character.meaning modes
  | .dot span =>
      if modes.unicode then .ok (.ofRanges (dotSet modes).ranges) else refuse .invalidUtf8 span
  | .assertion _ place => .ok (.look (place.look modes))
  | .property span name hasValue => refuseProperty modes span name hasValue
  | .shorthand span members negated => do
      .ok (.ofRanges (← shorthandSet modes span members negated).ranges)

def GroupKind.around (item : Expression) : GroupKind → Expression
  | .numbered number => .capture number item
  | .plain _ => item

mutual

/-- What a tree matches, and the flags that are set behind it. -/
def Tree.meaning (modes : Modes) : Tree → Except Defect (Expression × Modes)
  | .empty _ => .ok (.empty, modes)
  | .flags _ changes => .ok (.empty, modes.set changes)
  | .atom piece => do .ok (← piece.meaning modes, modes)
  | .bracketed span negated contents => do
      let inner ← contents.addTo modes .empty
      .ok (.ofRanges (← modes.classSet span negated inner).ranges, modes)
  | .repetition _ bounds greedy item => do
      let (expression, after) ← item.meaning modes
      let takesAll := greedy != after.swapsGreed
      .ok (expression.repeated bounds.least bounds.most takesAll, after)
  | .group _ kind item => do
      let (expression, _) ← item.meaning (modes.set kind.flags)
      .ok (kind.around expression, modes)
  | .concatenation _ items => do
      let (expressions, after) ← Tree.meanings modes items
      .ok (.inSequence expressions, after)
  | .alternation _ branches => do
      let (expressions, after) ← Tree.meanings modes branches
      .ok (.anyOf expressions, after)

/-- What trees match, and the flags that are set behind them. -/
def Tree.meanings (modes : Modes) : List Tree → Except Defect (List Expression × Modes)
  | [] => .ok ([], modes)
  | item :: rest => do
      let (expression, after) ← item.meaning modes
      let (expressions, last) ← Tree.meanings after rest
      .ok (expression :: expressions, last)

end

end PointRecords.Regex
