import PointRecords.Decimal.Digits

/-!
# Colour channels and range errors
-/

namespace PointRecords

/-- A channel of a colour. -/
inductive Channel
  | red
  | green
  | blue
  deriving DecidableEq

namespace Channel

def name : Channel → String
  | .red => "red"
  | .green => "green"
  | .blue => "blue"

def debug : Channel → String
  | .red => "Red"
  | .green => "Green"
  | .blue => "Blue"

end Channel

/-- The sentence that a component, given as text, does not fit a channel. -/
def outOfRange (channel : Channel) (component : String) : String :=
  channel.name ++ " component " ++ component ++ " is out of range 0..=255"

/-- An integer did not fit a channel. -/
structure RangeError where
  channel : Channel
  value : Int
  deriving DecidableEq

namespace RangeError

def message (error : RangeError) : String :=
  outOfRange error.channel (integerText error.value)

def debug (error : RangeError) : String :=
  "RangeError \x7b channel: " ++ error.channel.debug ++
    ", value: " ++ integerText error.value ++ " \x7d"

end RangeError

end PointRecords
