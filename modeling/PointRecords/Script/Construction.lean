import PointRecords.Colour.Hash
import PointRecords.Decimal.Integer
import PointRecords.Script.Exception
import PointRecords.Script.Value

/-!
# Building records from values

Either class is called with nothing, with a record of its own, or with three
values.  Components of a colour have to be integers and are checked like any
other; coordinates may be any real numbers and are rounded twice, to double and
then to single precision.
-/

namespace PointRecords.Script

/-- The two classes. -/
inductive RecordClass
  | point
  | colour
  deriving DecidableEq

namespace RecordClass

def name : RecordClass → String
  | .point => "PointXYZ"
  | .colour => "RGB"

def ofRecord : Record → RecordClass
  | .point _ => .point
  | .colour _ => .colour

end RecordClass

/-- The host refuses to write out integers of more digits. -/
def printableDigits : Nat := 4300

def printedInteger (number : Int) : String :=
  if number.natAbs < Nat.pow 10 printableDigits then integerText number
  else "<unprintable int object>"

/-- A value that was used as a component, as a host writes it out that writes integers
in its own way. -/
def printedComponent (write : Int → String) (number : Int) : Value → String
  | .indexLike _ => "Index<" ++ integerText number ++ ">"
  | _ => write number

/-- A value as a component of a colour.  Integers of more than 64 bits are out of
range like any others, but are written as the host writes them. -/
def component (write : Int → String) (channel : Channel) (value : Value) :
    Except Exception UInt8 :=
  match value.asInteger? with
  | none => .error (.notInteger value.qualifiedTypeName)
  | some number =>
      if Decimal.FitsInt64 number then
        match Colour.channel? channel number with
        | .ok level => .ok level
        | .error error => .error (.componentOutOfRange channel (integerText error.value))
      else .error (.componentOutOfRange channel (printedComponent write number value))

/-- An integer as a real number, if it is not too large. -/
def realOfInteger (number : Int) : Except Exception Real :=
  let real : Real := .ofInt number
  if real.isFinite then .ok real else .error .integerTooLarge

def realOf (value : Value) : Except Exception Real :=
  match value with
  | .real number | .realLike number => .ok number
  | _ =>
      match value.asInteger? with
      | some number => realOfInteger number
      | none => .error (.notReal value.qualifiedTypeName)

def coordinate (value : Value) : Except Exception Coordinate :=
  (realOf value).map (·.convert .single)

def fromThree (write : Int → String) (first second third : Value) :
    RecordClass → Except Exception Record
  | .point => do
      let x ← coordinate first
      let y ← coordinate second
      let z ← coordinate third
      return .point ⟨x, y, z⟩
  | .colour => do
      let red ← component write .red first
      let green ← component write .green second
      let blue ← component write .blue third
      return .colour ⟨red, green, blue⟩

/-- A record from one value, which has to be a record of the class. -/
def fromOne (value : Value) (recordClass : RecordClass) : Except Exception Record :=
  match recordClass, value with
  | .point, .object ⟨_, .point made⟩ => .ok (.point made)
  | .colour, .object ⟨_, .colour made⟩ => .ok (.colour made)
  | _, _ => .error (.notConvertible value.typeName recordClass.name)

def fromNothing : RecordClass → Record
  | .point => .point .origin
  | .colour => .colour .black

/-- Call a class, on a host that writes integers in its own way.  A keyword is refused
before anything else is looked at. -/
def constructOn (write : Int → String) (recordClass : RecordClass) (arguments : List Value)
    (keywords : List String) : Except Exception Record :=
  match keywords with
  | keyword :: _ => .error (.unexpectedKeyword recordClass.name keyword)
  | [] =>
      match arguments with
      | [] => .ok (fromNothing recordClass)
      | [value] => fromOne value recordClass
      | [first, second, third] => fromThree write first second third recordClass
      | _ => .error (.wrongArity recordClass.name arguments.length)

def construct : RecordClass → List Value → List String → Except Exception Record :=
  constructOn printedInteger

end PointRecords.Script
