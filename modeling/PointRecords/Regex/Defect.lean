import PointRecords.Regex.Position
import PointRecords.Text.Blank

/-!
# Defects of a pattern

A defect is a fault and the part of the pattern that it concerns, and sometimes
an earlier part that it contradicts.  It is drawn under the pattern: a pattern of
one line stands alone, the lines of a longer one are numbered between two rules.
-/

namespace PointRecords.Regex

/-- Why a text is not a pattern. -/
inductive Fault
  | memberOfClass
  | orderOfRange
  | endOfRange
  | unclosedClass
  | decimalTooLarge
  | noHexadecimal
  | notScalar
  | notHexadecimal
  | endInEscape
  | unknownEscape
  | negationOfNothing
  | repeatedFlag
  | repeatedNegation
  | endInFlags
  | unknownFlag
  | repeatedName
  | emptyName
  | characterOfName
  | unclosedName
  | unclosedGroup
  | unopenedGroup
  | tooDeep
  | orderOfBounds
  | noDecimal
  | unclosedBounds
  | nothingToRepeat
  | unclosedWordBoundary
  | unknownWordBoundary
  | endInWordBoundary
  | badProperty
  | backreference
  | lookAround
  | unicodeNotAllowed
  | invalidUtf8
  | unknownProperty
  | unknownPropertyValue
  | unknownShorthand
  | noCaseTable
  deriving DecidableEq

/-- The parts of a pattern may lie inside each other this often. -/
def depthLimit : Nat := 250

namespace Fault

def message : Fault → String
  | .memberOfClass => "invalid escape sequence found in character class"
  | .orderOfRange => "invalid character class range, the start must be <= the end"
  | .endOfRange => "invalid range boundary, must be a literal"
  | .unclosedClass => "unclosed character class"
  | .decimalTooLarge => "decimal literal invalid"
  | .noHexadecimal => "hexadecimal literal empty"
  | .notScalar => "hexadecimal literal is not a Unicode scalar value"
  | .notHexadecimal => "invalid hexadecimal digit"
  | .endInEscape => "incomplete escape sequence, reached end of pattern prematurely"
  | .unknownEscape => "unrecognized escape sequence"
  | .negationOfNothing => "dangling flag negation operator"
  | .repeatedFlag => "duplicate flag"
  | .repeatedNegation => "flag negation operator repeated"
  | .endInFlags => "expected flag but got end of regex"
  | .unknownFlag => "unrecognized flag"
  | .repeatedName => "duplicate capture group name"
  | .emptyName => "empty capture group name"
  | .characterOfName => "invalid capture group character"
  | .unclosedName => "unclosed capture group name"
  | .unclosedGroup => "unclosed group"
  | .unopenedGroup => "unopened group"
  | .tooDeep =>
      "exceed the maximum number of nested parentheses/brackets (" ++ toString depthLimit ++ ")"
  | .orderOfBounds => "invalid repetition count range, the start must be <= the end"
  | .noDecimal => "repetition quantifier expects a valid decimal"
  | .unclosedBounds => "unclosed counted repetition"
  | .nothingToRepeat => "repetition operator missing expression"
  | .unclosedWordBoundary =>
      "special word boundary assertion is either unclosed or contains an invalid character"
  | .unknownWordBoundary =>
      "unrecognized special word boundary assertion, " ++
        "valid choices are: start, end, start-half or end-half"
  | .endInWordBoundary =>
      "found either the beginning of a special word boundary or a bounded repetition on a " ++
        "\\b with an opening brace, but no closing brace"
  | .badProperty => "invalid Unicode character class"
  | .backreference => "backreferences are not supported"
  | .lookAround => "look-around, including look-ahead and look-behind, is not supported"
  | .unicodeNotAllowed => "Unicode not allowed here"
  | .invalidUtf8 => "pattern can match invalid UTF-8"
  | .unknownProperty => "Unicode property not found"
  | .unknownPropertyValue => "Unicode property value not found"
  | .unknownShorthand =>
      "Unicode-aware Perl class not found (make sure the unicode-perl feature is enabled)"
  | .noCaseTable =>
      "Unicode-aware case insensitivity matching is not available " ++
        "(make sure the unicode-case feature is enabled)"

end Fault

/-- A fault, the part it concerns, and the earlier part that it contradicts. -/
structure Defect where
  fault : Fault
  span : Span
  earlier : Option Span
  deriving DecidableEq

def refuse {α : Type} (fault : Fault) (span : Span) : Except Defect α :=
  .error ⟨fault, span, none⟩

/-- A line without the carriage return before its line feed. -/
def withoutReturn (line : List Char) : List Char :=
  if line.getLast? = some '\r' then line.dropLast else line

/-- The lines of a pattern as they are shown, from the parts between its line
feeds.  An empty line at the end is not shown. -/
def shownLines : List (List Char) → List (List Char)
  | [] => []
  | [last] => if last.isEmpty then [] else [last]
  | line :: rest => withoutReturn line :: shownLines rest

/-- Carets under the parts of one line, the first column being `column`. -/
def carets (column : Nat) : List Span → List Char
  | [] => []
  | span :: rest =>
      let gap := span.start.column - column
      let width := max 1 (span.finish.column - span.start.column)
      List.replicate gap ' ' ++ List.replicate width '^' ++ carets (column + gap + width) rest

def padded (width number : Nat) : List Char :=
  let digits := Nat.toDigits 10 number
  List.replicate (width - digits.length) ' ' ++ digits

namespace Defect

def spans (defect : Defect) : List Span := defect.earlier.toList ++ [defect.span]

/-- The carets under a line, moved in by the width of the margin. -/
def underline (defect : Defect) (margin line : Nat) : List Char :=
  match defect.spans.filter fun span => span.isOnOneLine && span.start.line == line with
  | [] => []
  | spans => List.replicate margin ' ' ++ carets 1 spans ++ ['\n']

def numberedLines (defect : Defect) (width : Nat) : Nat → List (List Char) → List Char
  | _, [] => []
  | number, line :: rest =>
      padded width number ++ [':', ' '] ++ line ++ ['\n'] ++
        defect.underline (width + 2) number ++ defect.numberedLines width (number + 1) rest

/-- A part that goes over several lines, in words. -/
def lineage (span : Span) : String :=
  "on line " ++ toString span.start.line ++ " (column " ++ toString span.start.column ++
    ") through line " ++ toString span.finish.line ++ " (column " ++
    toString (span.finish.column - 1) ++ ")\n"

/-- The rule above and below numbered lines. -/
def rule : String := String.ofList (List.replicate 79 '~') ++ "\n"

def drawing (defect : Defect) (pattern : List Char) : String :=
  match Text.splitAt '\n' pattern with
  | [_] => "    " ++ String.ofList (pattern ++ ['\n'] ++ defect.underline 4 1)
  | lines =>
      let width := (Nat.toDigits 10 lines.length).length
      rule ++ String.ofList (defect.numberedLines width 1 (shownLines lines)) ++ rule ++
        String.join ((defect.spans.filter (!·.isOnOneLine)).map lineage)

def message (defect : Defect) (pattern : List Char) : String :=
  "regex parse error:\n" ++ defect.drawing pattern ++ "error: " ++ defect.fault.message

end Defect

end PointRecords.Regex
