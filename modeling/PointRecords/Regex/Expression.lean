import PointRecords.Regex.CodeSet
import PointRecords.Regex.Tree

/-!
# Regular expressions

What a pattern means.  Expressions are built in a simple form: an expression that
always matches nothing but the empty text is repeated at most once, neighbouring
literals are joined, branches of one character each become a class, and what all
branches begin with stands before them.
-/

namespace PointRecords.Regex

/-- A place that is looked for.  A line ends at a line feed, or also at a carriage
return; a word is made of ASCII characters or of any letters. -/
inductive Look
  | textStart
  | textEnd
  | lineStart (returns : Bool)
  | lineEnd (returns : Bool)
  | word (edge : WordEdge) (unicode : Bool)
  deriving DecidableEq

/-- A regular expression.  A class is a list of ranges of code points. -/
inductive Expression
  | empty
  | literal (text : List Char)
  | oneOf (ranges : List (Nat × Nat))
  | look (place : Look)
  | repetition (least : Nat) (most : Option Nat) (greedy : Bool) (item : Expression)
  | capture (number : Nat) (item : Expression)
  | concatenation (items : List Expression)
  | alternation (branches : List Expression)

namespace Expression

mutual

/-- Two expressions are built in the same way. -/
def isSame : Expression → Expression → Bool
  | .empty, .empty => true
  | .literal text, .literal other => text == other
  | .oneOf ranges, .oneOf others => ranges == others
  | .look place, .look other => place == other
  | .repetition least most greedy item, .repetition least' most' greedy' other =>
      least == least' && most == most' && greedy == greedy' && item.isSame other
  | .capture number item, .capture number' other => number == number' && item.isSame other
  | .concatenation items, .concatenation others => areSame items others
  | .alternation branches, .alternation others => areSame branches others
  | _, _ => false

def areSame : List Expression → List Expression → Bool
  | [], [] => true
  | item :: rest, other :: others => item.isSame other && areSame rest others
  | _, _ => false

end

mutual

/-- The expression matches the empty text if anything. -/
def isWidthless : Expression → Bool
  | .empty | .look _ => true
  | .literal _ | .oneOf _ => false
  | .repetition _ most _ item => most.isSome && item.isWidthless
  | .capture _ item => item.isWidthless
  | .concatenation items | .alternation items => areWidthless items

def areWidthless : List Expression → Bool
  | [] => true
  | item :: rest => item.isWidthless && areWidthless rest

end

mutual

/-- The expression matches no empty text.  Of a class without characters, and of
all that holds one, this is not said. -/
def consumes : Expression → Option Bool
  | .empty | .look _ => some false
  | .literal _ => some true
  | .oneOf ranges => if ranges.isEmpty then none else some true
  | .repetition least _ _ item => item.consumes.map (least != 0 && ·)
  | .capture _ item => item.consumes
  | .concatenation items => anyConsumes items
  | .alternation branches => allConsume branches

/-- Some of the items, one after another, consumes. -/
def anyConsumes : List Expression → Option Bool
  | [] => some false
  | item :: rest =>
      match item.consumes, anyConsumes rest with
      | some first, some others => some (first || others)
      | _, _ => none

def allConsume : List Expression → Option Bool
  | [] => some true
  | branch :: rest =>
      match branch.consumes, allConsume rest with
      | some first, some others => some (first && others)
      | _, _ => none

end

/-- The expression for a class; one character is a literal. -/
def ofRanges : List (Nat × Nat) → Expression
  | [(first, last)] => if first = last then .literal [Char.ofNat first] else .oneOf [(first, last)]
  | ranges => .oneOf ranges

def repeated (item : Expression) (least : Nat) (most : Option Nat) (greedy : Bool) :
    Expression :=
  let least := if item.isWidthless then min least 1 else least
  let most := if item.isWidthless then some (min (most.getD 1) 1) else most
  if most = some 0 then .empty
  else if least = 1 ∧ most = some 1 then item
  else .repetition least most greedy item

def sequenceItems : Expression → List Expression
  | .empty => []
  | .concatenation items => items
  | item => [item]

def joinLiterals : List Expression → List Expression
  | [] => []
  | item :: rest =>
      match item, joinLiterals rest with
      | .literal text, .literal more :: others => .literal (text ++ more) :: others
      | item, others => item :: others

def inSequence (items : List Expression) : Expression :=
  match joinLiterals (items.flatMap sequenceItems) with
  | [] => .empty
  | [item] => item
  | items => .concatenation items

def branches : Expression → List Expression
  | .alternation branches => branches
  | branch => [branch]

def singleton? : Expression → Option (Nat × Nat)
  | .literal [character] => some (character.toNat, character.toNat)
  | _ => none

def ranges? : Expression → Option (List (Nat × Nat))
  | .oneOf ranges => some ranges
  | _ => none

def items? : Expression → Option (List Expression)
  | .concatenation items => some items
  | _ => none

def commonItems : List Expression → List Expression → List Expression
  | item :: rest, other :: others =>
      if item.isSame other then item :: commonItems rest others else []
  | _, _ => []

/-- Any of some branches, which become a class if they are characters or
classes. -/
def united (alternatives : List Expression) : Expression :=
  match alternatives.flatMap branches with
  | [branch] => branch
  | flat =>
      match flat.mapM singleton?, flat.mapM ranges? with
      | some ranges, _ => ofRanges (CodeSet.ofRanges ranges).ranges
      | _, some classes => ofRanges (CodeSet.ofRanges classes.flatten).ranges
      | none, none => .alternation flat

def anyOf (alternatives : List Expression) : Expression :=
  match united alternatives with
  | .alternation flat =>
      match flat.mapM items? with
      | some (first :: others) =>
          let shared := others.foldl commonItems first
          if shared.isEmpty then .alternation flat
          else
            let remaining := (first :: others).map fun items =>
              inSequence (items.drop shared.length)
            inSequence (shared ++ [united remaining])
      | _ => .alternation flat
  | expression => expression

end Expression

end PointRecords.Regex
