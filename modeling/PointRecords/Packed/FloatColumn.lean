import PointRecords.Packed.Bytes
import PointRecords.Point

/-!
# Columns of coordinates

The words of a column are split: first come the three low bytes of every word,
then the top byte of every word.
-/

namespace PointRecords.Packed

def lowBytes (coordinate : Coordinate) : Bytes :=
  toDigits 256 3 coordinate.bits

def topByte (coordinate : Coordinate) : UInt8 :=
  UInt8.ofNat (coordinate.bits / 0x1000000)

def writeFloatColumn (column : List Coordinate) : Bytes :=
  column.flatMap lowBytes ++ column.map topByte

def joinParts : Bytes → Bytes → List Coordinate
  | first :: second :: third :: low, top :: tops =>
      .ofBits (ofDigits 256 [first, second, third, top]) :: joinParts low tops
  | _, _ => []

def readFloatColumn (count : Nat) (bytes : Bytes) :
    Except Fault (List Coordinate × Bytes) := do
  let (low, rest) ← takeBytes (3 * count) bytes
  let (tops, rest) ← takeBytes count rest
  return (joinParts low tops, rest)

end PointRecords.Packed
