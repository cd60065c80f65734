import PointRecords.Json.Record

/-!
# Records of either kind
-/

namespace PointRecords

/-- A point or a colour. -/
inductive Record
  | point (made : Point)
  | colour (made : Colour)
  deriving DecidableEq

namespace Record

def debug : Record → String
  | .point made => "Xyz(" ++ made.debug ++ ")"
  | .colour made => "Rgb(" ++ made.debug ++ ")"

def display : Record → String
  | .point made => made.display
  | .colour made => made.display

def toJson : Record → String
  | .point made => made.toJson
  | .colour made => made.toJson

def describe (json : Bool) (record : Record) : String :=
  if json then record.toJson else record.display

/-- Equality of records as values.  Records of different kinds are not
compared. -/
def equals? : Record → Record → Option Bool
  | .point first, .point second => some (first.equals second)
  | .colour first, .colour second => some (first == second)
  | _, _ => none

end Record

end PointRecords
