import PointRecords.Colour
import PointRecords.Decimal.Integer
import PointRecords.Text.Quoted

/-!
# Colour components on the command line

A component is read as an integer of 64 bits.  One that leaves this range is no
mistake of usage but a component out of range, so it is kept as typed.
-/

namespace PointRecords.CommandLine

/-- A component as given. -/
inductive Component
  | value (number : Int)
  | overflow (text : String)
  deriving DecidableEq

/-- Why no record could be made of well-formed arguments. -/
inductive RecordError
  | range (error : RangeError)
  | overflow (channel : Channel) (text : String)
  deriving DecidableEq

namespace RecordError

def message : RecordError → String
  | .range error => error.message
  | .overflow channel text => outOfRange channel text

def debug : RecordError → String
  | .range error => "Range(" ++ error.debug ++ ")"
  | .overflow channel text =>
      "Overflow \x7b channel: " ++ channel.debug ++ ", text: " ++ Text.quoted text ++ " \x7d"

end RecordError

namespace Component

def read (text : String) : Except Decimal.IntegerFault Component :=
  match Decimal.readInteger text.toList with
  | .ok number => .ok (.value number)
  | .error .tooLarge | .error .tooSmall => .ok (.overflow text)
  | .error fault => .error fault

def toChannel (channel : Channel) : Component → Except RecordError UInt8
  | .value number =>
      match Colour.channel? channel number with
      | .ok level => .ok level
      | .error error => .error (.range error)
  | .overflow text => .error (.overflow channel text)

def debug : Component → String
  | .value number => "Value(" ++ integerText number ++ ")"
  | .overflow text => "Overflow(" ++ Text.quoted text ++ ")"

end Component

end PointRecords.CommandLine
