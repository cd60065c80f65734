import PointRecords.Regex.Expression

/-!
# Matching

The places of a text are before its characters and at its end.  From each of them
an expression goes over what it matches there, some distances at most; it is found
in a text if it goes anywhere from some place.
-/

namespace PointRecords.Regex

/-- A place of a text: the characters on both sides of it. -/
structure Place where
  before : Option Char
  after : Option Char
  deriving DecidableEq

def placesAfter (before : Option Char) : List Char → List Place
  | [] => [⟨before, none⟩]
  | character :: rest => ⟨before, some character⟩ :: placesAfter (some character) rest

def isWordCharacter (character : Char) : Bool := character.isAlphanum || character == '_'

namespace Place

/-- A line begins here.  A carriage return and a line feed after it end a line
together. -/
def startsLine (place : Place) (returns : Bool) : Bool :=
  match place.before with
  | none => true
  | some '\n' => true
  | some '\r' => returns && place.after != some '\n'
  | some _ => false

def endsLine (place : Place) (returns : Bool) : Bool :=
  match place.after with
  | none => true
  | some '\r' => returns
  | some '\n' => !returns || place.before != some '\r'
  | some _ => false

def hasEdge (place : Place) (edge : WordEdge) : Bool :=
  let before := place.before.any isWordCharacter
  let after := place.after.any isWordCharacter
  match edge with
  | .either => before != after
  | .neither => before == after
  | .start => !before && after
  | .finish => before && !after
  | .startHalf => !before
  | .finishHalf => !after

def satisfies (place : Place) : Look → Bool
  | .textStart => place.before.isNone
  | .textEnd => place.after.isNone
  | .lineStart returns => place.startsLine returns
  | .lineEnd returns => place.endsLine returns
  | .word edge _ => place.hasEdge edge

end Place

/-- For each place of a text, how far an expression goes from there.  The bits of
a number are the distances. -/
abbrev Reach := List Nat

def stay (places : List Place) : Reach := places.map fun _ => 1

def overCharacter (places : List Place) (accepts : Char → Bool) : Reach :=
  places.map fun place => if place.after.any accepts then 2 else 0

def isIn (ranges : List (Nat × Nat)) (character : Char) : Bool :=
  ranges.any fun (first, last) => first ≤ character.toNat && character.toNat ≤ last

/-- Go on from all distances of one place. -/
def goOn : Nat → Reach → Nat
  | _, [] => 0
  | distances, row :: rows =>
      if distances = 0 then 0
      else
        let further := 2 * goOn (distances / 2) rows
        if distances % 2 = 1 then row ||| further else further

/-- Go as far as the first says, and then as far as the second. -/
def compose : Reach → Reach → Reach
  | distances :: first, row :: second => goOn distances (row :: second) :: compose first second
  | _, _ => []

def either (first second : Reach) : Reach := first.zipWith (· ||| ·) second

def optionally (reach : Reach) : Reach := reach.map (1 ||| ·)

def times (reach : Reach) (count : Nat) : Reach :=
  if count = 0 then reach.map fun _ => 1
  else
    let half := times reach (count / 2)
    let whole := compose half half
    if count % 2 = 1 then compose reach whole else whole
termination_by count

/-- Go any number of times.  Going nowhere adds nothing, so only what is reached
further on matters. -/
def anyTimes : Reach → Reach
  | [] => []
  | distances :: rest =>
      let further := anyTimes rest
      (1 ||| 2 * goOn (distances / 2) further) :: further

mutual

/-- How far an expression goes from the places of a text. -/
def Expression.reach (places : List Place) : Expression → Reach
  | .empty => stay places
  | .literal text =>
      text.foldr (fun expected rest => compose (overCharacter places (· == expected)) rest)
        (stay places)
  | .oneOf ranges => overCharacter places (isIn ranges)
  | .look sought => places.map fun place => if place.satisfies sought then 1 else 0
  | .repetition least most _ item =>
      let once := item.reach places
      let more :=
        match most with
        | none => anyTimes once
        | some most => times (optionally once) (most - least)
      compose (times once least) more
  | .capture _ item => item.reach places
  | .concatenation items => Expression.reachThrough places items
  | .alternation branches => Expression.reachAny places branches

def Expression.reachThrough (places : List Place) : List Expression → Reach
  | [] => stay places
  | item :: rest => compose (item.reach places) (Expression.reachThrough places rest)

def Expression.reachAny (places : List Place) : List Expression → Reach
  | [] => places.map fun _ => 0
  | branch :: rest => either (branch.reach places) (Expression.reachAny places rest)

end

def Expression.isFoundIn (expression : Expression) (text : String) : Bool :=
  (expression.reach (placesAfter none text.toList)).any (· != 0)

end PointRecords.Regex
