import PointRecords.Script.Construction
import PointRecords.Script.Inherited

/-!
# Attributes and methods of records

Records have their fields as attributes, a few methods, and what every object
inherits.  Nothing about a record can be changed.
-/

namespace PointRecords.Script

/-- What a script gets as an answer. -/
inductive Answer
  | nothing
  | boolean (value : Bool)
  | text (value : String)
  | integer (value : Int)
  | real (value : Real)
  | integers (values : Triple Int)
  | reals (values : Triple Real)
  | record (record : Record)
  | recordClass (answered : RecordClass)
  | boundMethod (name : String)
  | notImplemented
  deriving DecidableEq

/-- A coordinate in double precision. -/
def widened (coordinate : Coordinate) : Real := coordinate.convert .double

def fieldPlace? (names : Triple String) (name : String) : Option Place :=
  if name = names.first then some .first
  else if name = names.second then some .second
  else if name = names.third then some .third
  else none

def field? (name : String) : Record → Option Answer
  | .point made =>
      (fieldPlace? ⟨"x", "y", "z"⟩ name).map fun place =>
        .real (widened (made.toTriple.get place))
  | .colour made =>
      (fieldPlace? ⟨"r", "g", "b"⟩ name).map fun place =>
        .integer (made.toTriple.get place).toNat

/-- The methods that a class defines and that take no arguments. -/
def plainMethods : Record → List String
  | .point _ => ["describe", "is_finite", "to_tuple", "__copy__"]
  | .colour _ => ["describe", "to_packed", "to_tuple", "__copy__"]

def comparisonMethods : List String :=
  ["__eq__", "__ne__", "__lt__", "__le__", "__gt__", "__ge__"]

def conversionMethods : List String := ["__str__", "__repr__", "__hash__"]

/-- The name belongs to a method or to something else that is not a field. -/
def isFixedName (record : Record) (name : String) : Bool :=
  (plainMethods record ++ comparisonMethods ++ conversionMethods).contains name ||
    (Inherited.ofName? name).isSome

/-- What a record holds under an inherited name. -/
def inheritedAttribute (record : Record) : Inherited → Answer
  | .recordClass => .recordClass (.ofRecord record)
  | .documentation => .text ""
  | .moduleName => .text moduleName
  | inherited => .boundMethod inherited.name

/-- Points have nothing under the name of their hash. -/
def lacksHash : Record → Bool
  | .point _ => true
  | .colour _ => false

def getAttribute (record : Record) (name : String) : Except Exception Answer :=
  match field? name record, Inherited.ofName? name with
  | some value, _ => .ok value
  | none, some inherited => .ok (inheritedAttribute record inherited)
  | none, none =>
      if name = "__hash__" ∧ lacksHash record then .ok .nothing
      else if isFixedName record name then .ok (.boundMethod name)
      else .error (.noAttribute name (qualifiedName record))

/-- Why an attribute can be neither set to a value nor, without one, deleted. -/
def refuseChange (record : Record) (name : String) (value : Option Value) : Exception :=
  if name = Inherited.recordClass.name then
    match value with
    | some given => .notClass given.qualifiedTypeName
    | none => .classNotDeletable
  else if (field? name record).isSome then .notWritable name (qualifiedName record)
  else if isFixedName record name then .readOnly name (qualifiedName record)
  else .noAttribute name (qualifiedName record)

/-- The hash of a record as a signed integer of 64 bits.  The host keeps minus
one for failures.  Points have no hash. -/
def hashOf : Record → Except Exception Int
  | .point made => .error (.unhashable (qualifiedName (.point made)))
  | .colour made =>
      let signed := Int.bmod made.hash.toNat 0x10000000000000000
      .ok (if signed = -1 then -2 else signed)

def fields : Record → Answer
  | .point made => .reals (made.toTriple.map widened)
  | .colour made => .integers (made.toTriple.map fun level => (level.toNat : Int))

def callPlain (record : Record) (method : String) : Answer :=
  match method, record with
  | "describe", _ => .text record.display
  | "is_finite", .point made => .boolean made.isFinite
  | "to_packed", .colour made => .integer made.toPacked.toNat
  | "to_tuple", _ => fields record
  | _, _ => .record record

/-- Call a comparison.  Only equality is decided, and only for records of one
class; unequal is what is not equal. -/
def callComparison (record : Record) (method : String) (other : Value) : Answer :=
  let result? :=
    match other with
    | .object object => record.equals? object.record
    | _ => none
  if method = "__eq__" then
    match result? with
    | some result => .boolean result
    | none => .notImplemented
  else if method = "__ne__" then .boolean !(result?.getD false)
  else .notImplemented

def callConversion (record : Record) (method : String) : Except Exception Answer :=
  if method = "__str__" then .ok (.text record.display)
  else if method = "__repr__" then .ok (.text (representation record))
  else (hashOf record).map .integer

def methodName (record : Record) (method : String) : String := className record ++ "." ++ method

def withoutArguments (record : Record) (method : String) (arguments : List Value)
    (answer : Except Exception Answer) : Except Exception Answer :=
  if arguments.isEmpty then answer
  else .error (.takesNoArguments (methodName record method) arguments.length)

def attributeName : Value → Except Exception String
  | .text name => .ok name
  | value => .error (.nameNotText value.qualifiedTypeName)

/-- A record in a format.  The only format is the empty one. -/
def formatAs (record : Record) : Value → Except Exception Answer
  | .text "" => .ok (.text record.display)
  | .text _ => .error (.unknownFormat (qualifiedName record))
  | .nothing => .error (.formatNotText "None")
  | value => .error (.formatNotText value.qualifiedTypeName)

/-- Records are not reduced to other values.  From the second protocol on they
are named with their module. -/
def refuseReduction (record : Record) (protocol : Value) : Exception :=
  match protocol.asInteger? with
  | none => .notInteger protocol.qualifiedTypeName
  | some number =>
      if number < -0x80000000 ∨ 0x7fffffff < number then .integerTooWide
      else if 2 ≤ number then .notReducible (qualifiedName record)
      else .notReducible (className record)

def fieldBytes : Record → Nat
  | .point _ => 12
  | .colour _ => 3

/-- The bytes of an object: two words of eight bytes, and the fields filled up to
whole words. -/
def objectBytes (record : Record) : Nat := 16 + (fieldBytes record + 7) / 8 * 8

def callInherited (record : Record) (inherited : Inherited) (arguments : List Value) :
    Except Exception Answer :=
  let plainly := withoutArguments record inherited.name arguments
  match inherited with
  | .recordClass => (construct (.ofRecord record) arguments []).map .record
  | .documentation | .moduleName => .error (.notCallable "str")
  | .directory => plainly (.ok (.boundMethod inherited.name))
  | .getState | .setUpSubclass => plainly (.ok .nothing)
  | .reduce => plainly (.error (.notReducible (className record)))
  | .byteSize => plainly (.ok (.integer (objectBytes record)))
  | .setUp => .ok .nothing
  | .subclassHook => .ok .notImplemented
  | .format =>
      match arguments with
      | [format] => formatAs record format
      | _ => .error (.takesOneArgument (methodName record inherited.name) arguments.length)
  | .reduceFor =>
      match arguments with
      | [protocol] => .error (refuseReduction record protocol)
      | _ => .error (.takesOneArgument (methodName record inherited.name) arguments.length)
  | .getAttribute =>
      match arguments with
      | [name] => do getAttribute record (← attributeName name)
      | _ => .error (.wrongCount 1 arguments.length)
  | .setAttribute =>
      match arguments with
      | [name, value] => do .error (refuseChange record (← attributeName name) (some value))
      | _ => .error (.takesNameAndValue arguments.length)
  | .deleteAttribute =>
      match arguments with
      | [name] => do .error (refuseChange record (← attributeName name) none)
      | _ => .error (.wrongCount 1 arguments.length)
  | .build =>
      match arguments with
      | [] => .error (.classMissing (qualifiedName record))
      | value :: _ => .error (.notClassToBuild (qualifiedName record) value.qualifiedTypeName)

def callMethod (record : Record) (method : String) (arguments : List Value) :
    Except Exception Answer :=
  if (plainMethods record).contains method then
    withoutArguments record method arguments (.ok (callPlain record method))
  else if comparisonMethods.contains method then
    match arguments with
    | [other] => .ok (callComparison record method other)
    | _ => .error (.wrongCount 1 arguments.length)
  else if method = "__hash__" ∧ lacksHash record then .error (.notCallable "NoneType")
  else if conversionMethods.contains method then
    if arguments.isEmpty then callConversion record method
    else .error (.wrongCount 0 arguments.length)
  else
    match field? method record, Inherited.ofName? method with
    | some (.real _), _ => .error (.notCallable "float")
    | some _, _ => .error (.notCallable "int")
    | none, some inherited => callInherited record inherited arguments
    | none, none => .error (.noAttribute method (qualifiedName record))

end PointRecords.Script
