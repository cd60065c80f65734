import PointRecords.Channel

/-!
# Exceptions of a scripting host

What a script does wrong with a record is answered by an exception.  Each cause
is a constructor; the class of the exception, its bases and its sentence follow
from the cause.
-/

namespace PointRecords.Script

/-- Why a script is interrupted. -/
inductive Exception
  | unexpectedKeyword (className keyword : String)
  | wrongArity (className : String) (given : Nat)
  | notConvertible (typeName className : String)
  | notInteger (typeName : String)
  | notReal (typeName : String)
  | componentOutOfRange (channel : Channel) (component : String)
  | integerTooLarge
  | unhashable (typeName : String)
  | unordered (left right : String)
  | notWritable (name typeName : String)
  | readOnly (name typeName : String)
  | noAttribute (name typeName : String)
  | takesNoArguments (method : String) (given : Nat)
  | wrongCount (expected given : Nat)
  | notCallable (typeName : String)
  | takesOneArgument (method : String) (given : Nat)
  | takesNameAndValue (given : Nat)
  | nameNotText (typeName : String)
  | formatNotText (typeName : String)
  | unknownFormat (typeName : String)
  | notClass (typeName : String)
  | classNotDeletable
  | notReducible (typeName : String)
  | integerTooWide
  | classMissing (typeName : String)
  | notClassToBuild (typeName given : String)
  deriving DecidableEq

namespace Exception

def name : Exception → String
  | .componentOutOfRange _ _ => "RangeError"
  | .integerTooLarge | .integerTooWide => "OverflowError"
  | .notWritable _ _ | .readOnly _ _ | .noAttribute _ _ => "AttributeError"
  | _ => "TypeError"

/-- The bases of the class, apart from those that all exceptions have. -/
def bases : Exception → List String
  | .componentOutOfRange _ _ => ["ValueError"]
  | .integerTooLarge | .integerTooWide => ["ArithmeticError"]
  | _ => []

def message : Exception → String
  | .unexpectedKeyword className keyword =>
      className ++ ".__new__() got an unexpected keyword argument '" ++ keyword ++ "'"
  | .wrongArity className given =>
      className ++ "() takes 0, 1 or 3 arguments (" ++ integerText given ++ " given)"
  | .notConvertible typeName className =>
      "'" ++ typeName ++ "' object cannot be converted to '" ++ className ++ "'"
  | .notInteger typeName =>
      "'" ++ typeName ++ "' object cannot be interpreted as an integer"
  | .notReal typeName => "must be real number, not " ++ typeName
  | .componentOutOfRange channel component => outOfRange channel component
  | .integerTooLarge => "int too large to convert to float"
  | .unhashable typeName => "unhashable type: '" ++ typeName ++ "'"
  | .unordered left right =>
      "'<' not supported between instances of '" ++ left ++ "' and '" ++ right ++ "'"
  | .notWritable name typeName =>
      "attribute '" ++ name ++ "' of '" ++ typeName ++ "' objects is not writable"
  | .readOnly name typeName =>
      "'" ++ typeName ++ "' object attribute '" ++ name ++ "' is read-only"
  | .noAttribute name typeName =>
      "'" ++ typeName ++ "' object has no attribute '" ++ name ++ "'"
  | .takesNoArguments method given =>
      method ++ "() takes no arguments (" ++ integerText given ++ " given)"
  | .wrongCount expected given =>
      "expected " ++ integerText expected ++ (if expected = 1 then " argument" else " arguments") ++
        ", got " ++ integerText given
  | .notCallable typeName => "'" ++ typeName ++ "' object is not callable"
  | .takesOneArgument method given =>
      method ++ "() takes exactly one argument (" ++ integerText given ++ " given)"
  | .takesNameAndValue given => " expected 2 arguments, got " ++ integerText given
  | .nameNotText typeName => "attribute name must be string, not '" ++ typeName ++ "'"
  | .formatNotText typeName => "__format__() argument must be str, not " ++ typeName
  | .unknownFormat typeName => "unsupported format string passed to " ++ typeName ++ ".__format__"
  | .notClass typeName => "__class__ must be set to a class, not '" ++ typeName ++ "' object"
  | .classNotDeletable => "can't delete __class__ attribute"
  | .notReducible typeName => "cannot pickle '" ++ typeName ++ "' object"
  | .integerTooWide => "Python int too large to convert to C int"
  | .classMissing typeName => typeName ++ ".__new__(): not enough arguments"
  | .notClassToBuild typeName given =>
      typeName ++ ".__new__(X): X is not a type object (" ++ given ++ ")"

end Exception

end PointRecords.Script
