import PointRecords.Log.Record
import PointRecords.Regex.Pattern
import PointRecords.Text.Blank

/-!
# Log filters

A filter holds a threshold for everything and thresholds for targets whose names
begin in certain ways; the longest of these names decides.  A specification is a
list of directives, which replace earlier ones of the same name, and may end
with a regular expression that the texts of records have to match.
-/

namespace PointRecords.Log

/-- The least severe level that passes, or none at all. -/
inductive Threshold
  | off
  | upTo (level : Level)
  deriving DecidableEq

namespace Threshold

def name : Threshold → String
  | .off => "OFF"
  | .upTo level => level.name

def admits (threshold : Threshold) (level : Level) : Bool :=
  match threshold with
  | .off => false
  | .upTo most => level.rank ≤ most.rank

/-- The threshold that a word names, in any case. -/
def ofName? (word : List Char) : Option Threshold :=
  [Threshold.off, .upTo .error, .upTo .warn, .upTo .info, .upTo .debug, .upTo .trace].find?
    fun threshold => threshold.name.toList == word.map Char.toUpper

end Threshold

/-- A threshold for the targets that begin with a name, or for all. -/
structure Directive where
  name : Option (List Char)
  threshold : Threshold
  deriving DecidableEq

namespace Directive

def concerns (directive : Directive) (target : List Char) : Bool :=
  match directive.name with
  | none => true
  | some name => name.isPrefixOf target

/-- Longer names come first, and any name before none. -/
def weight (directive : Directive) : Nat :=
  match directive.name with
  | none => 0
  | some name => name.length + 1

end Directive

/-- What is written to the log. -/
structure Filter where
  directives : List Directive
  pattern : Option Regex.Expression

namespace Filter

/-- Put a directive in the place of the one of the same name, or at the end. -/
def insertDirective (directive : Directive) : List Directive → List Directive
  | [] => [directive]
  | other :: rest =>
      if other.name = directive.name then directive :: rest
      else other :: insertDirective directive rest

/-- The weightier of a directive found so far and another one. -/
def heavier (found : Option Directive) (other : Directive) : Option Directive :=
  match found with
  | none => some other
  | some directive => if directive.weight ≤ other.weight then some other else some directive

def admits (filter : Filter) (target : String) (record : Record) : Bool :=
  let concerned := filter.directives.filter (·.concerns target.toList)
  let leveled :=
    match concerned.foldl heavier none with
    | none => false
    | some directive => directive.threshold.admits record.level
  let matching :=
    match filter.pattern with
    | none => true
    | some expression => expression.isFoundIn record.text
  leveled && matching

end Filter

/-- Why a specification, or a part of it, is ignored. -/
inductive SpecificationFault
  | manySlashes (specification : List Char)
  | badPart (part : List Char)
  | badPattern (fault : Regex.PatternFault) (pattern : List Char)

namespace SpecificationFault

def message : SpecificationFault → String
  | .manySlashes specification =>
      "invalid logging spec '" ++ String.ofList specification ++ "' (too many '/'s)"
  | .badPart part => "invalid logging spec '" ++ String.ofList part ++ "'"
  | .badPattern fault pattern => "invalid regex filter - " ++ fault.message pattern

end SpecificationFault

/-- Read one directive.  A word alone is a level if it names one, and otherwise a
target of which everything is logged. -/
def readDirective (part : List Char) : Except SpecificationFault Directive :=
  match Text.splitAt '=' part with
  | [word] =>
      match Threshold.ofName? word with
      | some threshold => .ok ⟨none, threshold⟩
      | none => .ok ⟨some word, .upTo .trace⟩
  | [name, level] =>
      let level := Text.trim level
      if level = [] then .ok ⟨some name, .upTo .trace⟩
      else
        match Threshold.ofName? level with
        | some threshold => .ok ⟨some name, threshold⟩
        | none => .error (.badPart level)
  | _ => .error (.badPart part)

def readDirectives (text : List Char) : List (Except SpecificationFault Directive) :=
  (((Text.splitAt ',' text).map Text.trim).filter (· != [])).map readDirective

/-- The filter with the directives that could be read, and the faults of the
others. -/
def addDirectives (filter : Filter) (results : List (Except SpecificationFault Directive)) :
    Filter × List SpecificationFault :=
  results.foldl (fun (filter, faults) result =>
    match result with
    | .ok directive =>
        ({ filter with directives := Filter.insertDirective directive filter.directives }, faults)
    | .error fault => (filter, faults ++ [fault])) (filter, [])

def refine (filter : Filter) (specification : String) : Filter × List SpecificationFault :=
  match Text.splitAt '/' specification.toList with
  | [directives] => addDirectives filter (readDirectives directives)
  | [directives, pattern] =>
      let (refined, faults) := addDirectives filter (readDirectives directives)
      match Regex.readPattern pattern with
      | .ok expression => ({ refined with pattern := some expression }, faults)
      | .error fault => (refined, faults ++ [.badPattern fault pattern])
  | _ => (filter, [.manySlashes specification.toList])

end PointRecords.Log
