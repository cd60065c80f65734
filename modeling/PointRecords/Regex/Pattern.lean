import PointRecords.Regex.Depth
import PointRecords.Regex.Footprint
import PointRecords.Regex.Matching
import PointRecords.Regex.Meaning
import PointRecords.Regex.Reader

/-!
# Patterns

A pattern is read as a tree, and is refused for a defect of the tree, for what the
tree would mean, or for the automaton that its expression would need.
-/

namespace PointRecords.Regex

/-- Why a text is not accepted as a pattern. -/
inductive PatternFault
  | defective (defect : Defect)
  | tooLarge
  | asksForLetters
  deriving DecidableEq

namespace PatternFault

def message (pattern : List Char) : PatternFault → String
  | .defective defect => defect.message pattern
  | .tooLarge => "Compiled regex exceeds size limit of " ++ toString sizeLimit ++ " bytes."
  | .asksForLetters => "error building NFA"

end PatternFault

mutual

/-- The expression looks for words of any letters, of which there is no table. -/
def Expression.asksForLetters : Expression → Bool
  | .empty | .literal _ | .oneOf _ => false
  | .look (.word _ unicode) => unicode
  | .look _ => false
  | .repetition _ _ _ item => item.asksForLetters
  | .capture _ item => item.asksForLetters
  | .concatenation items => Expression.anyAsksForLetters items
  | .alternation branches => Expression.anyAsksForLetters branches

def Expression.anyAsksForLetters : List Expression → Bool
  | [] => false
  | item :: rest => item.asksForLetters || Expression.anyAsksForLetters rest

end

def expressionOf (pattern : List Char) : Except Defect Expression := do
  let tree ← Tree.read pattern
  tree.checkDepth 0
  let (expression, _) ← tree.meaning .standard
  .ok expression

def readPattern (pattern : List Char) : Except PatternFault Expression :=
  match expressionOf pattern with
  | .error defect => .error (.defective defect)
  | .ok expression =>
      if sizeLimit < expression.automatonSize .forward then .error .tooLarge
      else if expression.asksForLetters then .error .asksForLetters
      else if sizeLimit < expression.automatonSize .backward then .error .tooLarge
      else .ok expression

end PointRecords.Regex
