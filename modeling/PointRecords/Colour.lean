import PointRecords.Binary.Rounding
import PointRecords.Channel
import PointRecords.Log.Record
import PointRecords.Triple

/-!
# Colours

A colour has three channels of eight bits.  Integers of any width are checked
channel by channel, and the first that does not fit is reported and logged.
Channels of sixteen bits are scaled down in double precision; one 24-bit number
packs the three channels, red uppermost.
-/

namespace PointRecords

/-- A colour of three 8-bit channels. -/
structure Colour where
  red : UInt8
  green : UInt8
  blue : UInt8
  deriving DecidableEq

namespace Colour

def black : Colour := ⟨0, 0, 0⟩

def ofTriple (channels : Triple UInt8) : Colour :=
  ⟨channels.first, channels.second, channels.third⟩

def toTriple (colour : Colour) : Triple UInt8 :=
  ⟨colour.red, colour.green, colour.blue⟩

def channel? (channel : Channel) (number : Int) : Except RangeError UInt8 :=
  if 0 ≤ number ∧ number ≤ 255 then .ok (UInt8.ofNat number.toNat)
  else .error ⟨channel, number⟩

/-- A colour from three integers; the first that does not fit is reported. -/
def ofIntegers (red green blue : Int) : Except RangeError Colour := do
  let red ← channel? .red red
  let green ← channel? .green green
  let blue ← channel? .blue blue
  return ⟨red, green, blue⟩

/-- The record that a rejected component leaves in the log. -/
def rejection (error : RangeError) : Log.Record :=
  ⟨.debug, "rejecting " ++ error.channel.name ++ " component " ++ integerText error.value⟩

/-- A colour from three integers, with a log record of a rejection. -/
def checked (red green blue : Int) : Logged (Except RangeError Colour) :=
  let result := ofIntegers red green blue
  ⟨result, match result with
    | .ok _ => []
    | .error error => [rejection error]⟩

/-- The same check of a tuple. -/
def checkedTuple (channels : Int × Int × Int) : Logged (Except RangeError Colour) :=
  checked channels.1 channels.2.1 channels.2.2

/-- The same check of a row of three. -/
def checkedTriple (channels : Triple Int) : Logged (Except RangeError Colour) :=
  checked channels.first channels.second channels.third

/-- A 16-bit channel scaled to eight bits: divided by 65535 and multiplied by
255 in double precision, and cut off. -/
def scaleDown (level : UInt16) : UInt8 :=
  let double := Binary.Format.double
  let share := double.quotient (double.ofNat level.toNat) (double.ofNat 65535)
  UInt8.ofNat (double.truncate (double.product share (double.ofNat 255)))

/-- An 8-bit channel widened so that full remains full. -/
def scaleUp (level : UInt8) : UInt16 := level.toUInt16 * 257

def ofWide (levels : Triple UInt16) : Colour :=
  ofTriple (levels.map scaleDown)

/-- The three channels widened to sixteen bits. -/
def toWide (colour : Colour) : Triple UInt16 :=
  colour.toTriple.map scaleUp

/-- The channels in one number, blue in the lowest byte. -/
def toPacked (colour : Colour) : UInt32 :=
  colour.red.toUInt32 <<< 16 ||| colour.green.toUInt32 <<< 8 ||| colour.blue.toUInt32

/-- The colour in the lower three bytes of a number. -/
def ofPacked (packed : UInt32) : Colour :=
  ⟨(packed >>> 16).toUInt8, (packed >>> 8).toUInt8, packed.toUInt8⟩

def channelText (level : UInt8) : String :=
  integerText level.toNat

def display (colour : Colour) : String :=
  bracketed (colour.toTriple.map channelText)

def debug (colour : Colour) : String :=
  let texts := colour.toTriple.map channelText
  "Rgb \x7b r: " ++ texts.first ++ ", g: " ++ texts.second ++
    ", b: " ++ texts.third ++ " \x7d"

end Colour

end PointRecords
