import PointRecords.Channel
import PointRecords.Decimal.Layout
import PointRecords.Text.Quoted

/-!
# Faults of a JSON text

A text is refused because it is not JSON, because it ends too early, or because
it is JSON of another shape than the record.  Each cause is a constructor of its
own; its sentence and its category are functions of the cause.
-/

namespace PointRecords.Json

/-- The two kinds of container. -/
inductive Container
  | list
  | object
  deriving DecidableEq

namespace Container

def closer : Container → Char
  | .list => ']'
  | .object => '\x7d'

end Container

/-- A number as the reader holds it: an integer of at most 64 bits, or a
double-precision number. -/
inductive Number
  | integer (value : Int)
  | floating (value : Binary.Pattern .double)
  deriving DecidableEq

/-- A value that was found in the place of another. -/
inductive Found
  | null
  | boolean (value : Bool)
  | text (value : List Char)
  | number (value : Number)
  | sequence
  | map
  deriving DecidableEq

namespace Found

def describe : Found → String
  | .null => "null"
  | .boolean value => "boolean `" ++ (if value then "true" else "false") ++ "`"
  | .text value => "string " ++ Text.quoted (String.ofList value)
  | .number (.integer value) => "integer `" ++ integerText value ++ "`"
  | .number (.floating value) =>
      "floating point `" ++ String.ofList (value.write .jsonDouble) ++ "`"
  | .sequence => "sequence"
  | .map => "map"

end Found

/-- Why a text is not a record. -/
inductive Fault
  | endInValue
  | endInString
  | endIn (container : Container)
  | expectedColon
  | expectedComma (container : Container)
  | expectedWord
  | expectedValue
  | invalidEscape
  | invalidNumber
  | numberOutOfRange
  | controlCharacter
  | keyNotString
  | loneSurrogate
  | surrogateCutOff
  | trailingComma
  | trailingCharacters
  | wrongType (found : Found) (expected : String)
  | wrongValue (found : Found) (expected : String)
  | wrongLength (length : Nat) (title : String)
  | duplicateField (name : String)
  | missingField (name : String)
  deriving DecidableEq

/-- The three kinds of fault. -/
inductive Category
  | malformed
  | shape
  | early
  deriving DecidableEq

namespace Category

def name : Category → String
  | .malformed => "Syntax"
  | .shape => "Data"
  | .early => "Eof"

end Category

namespace Fault

def category : Fault → Category
  | .endInValue | .endInString | .endIn _ => .early
  | .wrongType _ _ | .wrongValue _ _ | .wrongLength _ _ | .duplicateField _
  | .missingField _ => .shape
  | _ => .malformed

def message : Fault → String
  | .endInValue => "EOF while parsing a value"
  | .endInString => "EOF while parsing a string"
  | .endIn .list => "EOF while parsing a list"
  | .endIn .object => "EOF while parsing an object"
  | .expectedColon => "expected `:`"
  | .expectedComma .list => "expected `,` or `]`"
  | .expectedComma .object => "expected `,` or `\x7d`"
  | .expectedWord => "expected ident"
  | .expectedValue => "expected value"
  | .invalidEscape => "invalid escape"
  | .invalidNumber => "invalid number"
  | .numberOutOfRange => "number out of range"
  | .controlCharacter =>
      "control character (\\u0000-\\u001F) found while parsing a string"
  | .keyNotString => "key must be a string"
  | .loneSurrogate => "lone leading surrogate in hex escape"
  | .surrogateCutOff => "unexpected end of hex escape"
  | .trailingComma => "trailing comma"
  | .trailingCharacters => "trailing characters"
  | .wrongType found expected =>
      "invalid type: " ++ found.describe ++ ", expected " ++ expected
  | .wrongValue found expected =>
      "invalid value: " ++ found.describe ++ ", expected " ++ expected
  | .wrongLength length title =>
      "invalid length " ++ integerText length ++ ", expected " ++ title ++
        " with 3 elements"
  | .duplicateField name => "duplicate field `" ++ name ++ "`"
  | .missingField name => "missing field `" ++ name ++ "`"

end Fault

end PointRecords.Json
