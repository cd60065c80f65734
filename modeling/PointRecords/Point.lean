import PointRecords.Decimal.Layout
import PointRecords.Triple

/-!
# Points

A point has three coordinates of single precision.  Any pattern is a coordinate,
infinities and what is not a number included, and is kept bit by bit.
-/

namespace PointRecords

/-- A coordinate: a pattern of the 32-bit format. -/
abbrev Coordinate := Binary.Pattern Binary.Format.single

namespace Coordinate

def one : Coordinate := Binary.Pattern.ofInt 1

def text (layout : Decimal.Layout) (coordinate : Coordinate) : String :=
  String.ofList (coordinate.write layout)

end Coordinate

/-- A point in space. -/
structure Point where
  x : Coordinate
  y : Coordinate
  z : Coordinate
  deriving DecidableEq

namespace Point

def origin : Point := ⟨.zero, .zero, .zero⟩

def ofTriple (coordinates : Triple Coordinate) : Point :=
  ⟨coordinates.first, coordinates.second, coordinates.third⟩

def toTriple (point : Point) : Triple Coordinate :=
  ⟨point.x, point.y, point.z⟩

def homogeneous (point : Point) : List Coordinate :=
  [point.x, point.y, point.z, Coordinate.one]

/-- Every coordinate is a real number. -/
def isFinite (point : Point) : Bool :=
  point.x.isFinite && point.y.isFinite && point.z.isFinite

def equals (first second : Point) : Bool :=
  first.x.equals second.x && first.y.equals second.y && first.z.equals second.z

/-- The text of a point: its coordinates in the plain layout. -/
def display (point : Point) : String :=
  bracketed (point.toTriple.map (Coordinate.text .plain))

def debug (point : Point) : String :=
  let texts := point.toTriple.map (Coordinate.text .debug)
  "PointXyz \x7b x: " ++ texts.first ++ ", y: " ++ texts.second ++
    ", z: " ++ texts.third ++ " \x7d"

end Point

end PointRecords
