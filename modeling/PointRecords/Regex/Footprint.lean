import PointRecords.Regex.Encoding
import PointRecords.Regex.Expression
import PointRecords.Regex.WordTree

/-!
# The size of automata

An expression is only accepted if the automata that look for it, reading forward
and backward, are of moderate size.  A state takes 32 bytes, to which come four
for every way on from a state that branches, and eight for every range of bytes of
a state that has several.  The size is found without building the automata.
-/

namespace PointRecords.Regex

/-- An automaton may take so many bytes. -/
def sizeLimit : Nat := 10485760

def stateSize : Nat := 32

/-- The bytes of a way on from a state that branches. -/
def branchSize : Nat := 4

def rangeSize : Nat := 8

/-- The way an automaton reads. -/
inductive Direction
  | forward
  | backward
  deriving DecidableEq

/-- The size of a part of an automaton.  An open part ends with a state that
branches, so that going on from it takes another branch. -/
structure Footprint where
  size : Nat
  isOpen : Bool
  deriving DecidableEq

namespace Footprint

def state : Footprint := ⟨stateSize, false⟩

def link (part : Footprint) : Nat := if part.isOpen then branchSize else 0

def append (first second : Footprint) : Footprint :=
  ⟨first.size + first.link + second.size, second.isOpen⟩

def inSequence : List Footprint → Footprint
  | [] => state
  | [part] => part
  | part :: rest => part.append (inSequence rest)

def copies (part : Footprint) : Nat → Footprint
  | 0 => state
  | more + 1 => ⟨(more + 1) * part.size + more * part.link, part.isOpen⟩

/-- Any of several parts, between two states. -/
def anyOf (parts : List Footprint) : Footprint :=
  ⟨parts.foldl (fun size part => size + branchSize + part.size + part.link) (2 * stateSize), false⟩

def optional (part : Footprint) : Footprint :=
  ⟨2 * stateSize + part.size + 2 * branchSize + part.link, false⟩

/-- A part any number of times.  One that may match the empty text has to be kept
from going round in circles. -/
def starred (part : Footprint) (consumes : Bool) : Footprint :=
  if consumes then ⟨stateSize + part.size + branchSize + part.link, true⟩
  else ⟨3 * stateSize + part.size + 4 * branchSize + part.link, false⟩

/-- A part `least` times and up to `more` times again. -/
def bounded (part : Footprint) (least more : Nat) : Footprint :=
  let first := part.copies least
  ⟨first.size + first.link + stateSize + more * (stateSize + part.size + 2 * branchSize + part.link),
    false⟩

def repeated (part : Footprint) (consumes : Bool) : Nat → Option Nat → Footprint
  | 0, some 1 => part.optional
  | 0, none => part.starred consumes
  | least + 1, none =>
      ⟨(part.copies (least + 1)).size + part.link + stateSize + branchSize, true⟩
  | least, some most =>
      if least = most then part.copies least else part.bounded least (most - least)

end Footprint

def classFootprint (direction : Direction) (ranges : List (Nat × Nat)) : Footprint :=
  if ranges.all fun range => range.2 < 0x80 then
    ⟨2 * stateSize + rangeSize * ranges.length, false⟩
  else
    let sequences := encodedRanges ranges
    match direction with
    | .forward =>
        let nodes := (remainders 4 sequences).eraseDups
        ⟨nodes.foldl
          (fun size node => size + stateSize + rangeSize * (byFirstBytes node).length) stateSize,
          false⟩
    | .backward =>
        let states := (sequences.flatMap beginnings).eraseDups.length
        ⟨(states + 2) * stateSize + sequences.length * branchSize, false⟩

mutual

def WordTree.size : WordTree → Nat
  | .leaf => 0
  | .node parts => stateSize + WordTree.sizeOfParts parts

/-- The bytes of the parts of a place; between two of them the tree may be
left. -/
def WordTree.sizeOfParts : List (List (Nat × WordTree)) → Nat
  | [] => 0
  | [part] => WordTree.sizeOfPart part
  | part :: rest => WordTree.sizeOfPart part + branchSize + WordTree.sizeOfParts rest

def WordTree.sizeOfPart (part : List (Nat × WordTree)) : Nat :=
  match part with
  | [] => 0
  | [(_, tree)] => stateSize + branchSize + tree.size
  | part =>
      stateSize + branchSize + rangeSize * part.length + WordTree.sizeOfLetters part

def WordTree.sizeOfLetters : List (Nat × WordTree) → Nat
  | [] => 0
  | (_, tree) :: rest => tree.size + WordTree.sizeOfLetters rest

end

def encodedText (text : List Char) : List Nat :=
  text.flatMap fun character => (String.utf8EncodeChar character).map UInt8.toNat

def Expression.text? : Expression → Option (List Char)
  | .literal text => some text
  | _ => none

def textsFootprint (direction : Direction) (texts : List (List Char)) : Footprint :=
  let words := texts.map fun text =>
    match direction with
    | .forward => encodedText text
    | .backward => (encodedText text).reverse
  let letters := words.foldl (fun most word => max most word.length) 0
  ⟨stateSize + (WordTree.ofWords letters words).size, false⟩

mutual

/-- The part for an expression.  Only an automaton that reads forward marks what
is captured. -/
def Expression.footprint (direction : Direction) : Expression → Footprint
  | .empty | .look _ => .state
  | .literal text => ⟨stateSize * (encodedText text).length, false⟩
  | .oneOf ranges => classFootprint direction ranges
  | .repetition least most _ item =>
      (item.footprint direction).repeated (item.consumes == some true) least most
  | .capture _ item =>
      let part := item.footprint direction
      match direction with
      | .forward => ⟨2 * stateSize + part.size + part.link, false⟩
      | .backward => part
  | .concatenation items =>
      let parts := Expression.footprints direction items
      match direction with
      | .forward => .inSequence parts
      | .backward => .inSequence parts.reverse
  | .alternation branches =>
      match branches.mapM Expression.text? with
      | some texts => textsFootprint direction texts
      | none => .anyOf (Expression.footprints direction branches)

def Expression.footprints (direction : Direction) : List Expression → List Footprint
  | [] => []
  | item :: rest => item.footprint direction :: Expression.footprints direction rest

end

mutual

/-- A match begins, for the direction, at the end of the text. -/
def Expression.isAnchored (direction : Direction) : Expression → Bool
  | .empty | .literal _ | .oneOf _ => false
  | .look place =>
      match direction with
      | .forward => place == .textStart
      | .backward => place == .textEnd
  | .repetition least _ _ item => least != 0 && item.isAnchored direction
  | .capture _ item => item.isAnchored direction
  | .concatenation items =>
      match direction with
      | .forward => Expression.areAnchoredFirst items
      | .backward => Expression.areAnchoredLast items
  | .alternation branches => Expression.areAnchored direction branches

def Expression.areAnchored (direction : Direction) : List Expression → Bool
  | [] => true
  | branch :: rest => branch.isAnchored direction && Expression.areAnchored direction rest

/-- The same for items read from the first. -/
def Expression.areAnchoredFirst : List Expression → Bool
  | [] => false
  | item :: rest =>
      item.isAnchored .forward || (item.isWidthless && Expression.areAnchoredFirst rest)

/-- The same for items read from the last. -/
def Expression.areAnchoredLast : List Expression → Bool
  | [] => false
  | item :: rest =>
      Expression.areAnchoredLast rest || (Expression.areWidthless rest && item.isAnchored .backward)

end

/-- The bytes of the automaton that looks for an expression: a state for the match,
and a loop over what precedes the match unless it is anchored. -/
def Expression.automatonSize (direction : Direction) (expression : Expression) : Nat :=
  let whole :=
    match direction with
    | .forward => (Expression.capture 0 expression).footprint .forward
    | .backward => expression.footprint .backward
  let loop :=
    if expression.isAnchored direction then stateSize
    else 3 * stateSize + rangeSize + 2 * branchSize
  loop + whole.size + whole.link + stateSize

end PointRecords.Regex
