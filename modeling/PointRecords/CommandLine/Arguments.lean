import PointRecords.CommandLine.Component
import PointRecords.Record

/-!
# Arguments and what they ask for

Well-formed arguments name a kind of record and its three values.  Carrying them
out makes the record, logs it, and describes it as text or as JSON.
-/

namespace PointRecords.CommandLine

/-- A record to be made. -/
inductive Command
  | point (coordinates : Triple Coordinate)
  | colour (components : Triple Component)
  | wideColour (levels : Triple UInt16)
  deriving DecidableEq

/-- Everything given on the command line. -/
structure Arguments where
  json : Bool
  verbose : Nat
  command : Command
  deriving DecidableEq

/-- A named variant with three named fields, as a debug text. -/
def variantText (variant : String) (names texts : Triple String) : String :=
  variant ++ " \x7b " ++ names.first ++ ": " ++ texts.first ++ ", " ++ names.second ++ ": " ++
    texts.second ++ ", " ++ names.third ++ ": " ++ texts.third ++ " \x7d"

namespace Command

def debug : Command → String
  | .point coordinates =>
      variantText "Xyz" ⟨"x", "y", "z"⟩ (coordinates.map (Coordinate.text .debug))
  | .colour components => variantText "Rgb" ⟨"r", "g", "b"⟩ (components.map Component.debug)
  | .wideColour levels =>
      variantText "Rgb16" ⟨"r", "g", "b"⟩ (levels.map fun level => integerText level.toNat)

def record : Command → Except RecordError Record
  | .point coordinates => .ok (.point (Point.ofTriple coordinates))
  | .colour components => do
      let red ← components.first.toChannel .red
      let green ← components.second.toChannel .green
      let blue ← components.third.toChannel .blue
      return .colour ⟨red, green, blue⟩
  | .wideColour levels => .ok (.colour (Colour.ofWide levels))

end Command

namespace Arguments

def debug (arguments : Arguments) : String :=
  "Cli \x7b json: " ++ (if arguments.json then "true" else "false") ++ ", verbose: " ++
    integerText arguments.verbose ++ ", command: " ++ arguments.command.debug ++ " \x7d"

/-- Make the record and describe it.  A record that was made is logged. -/
def run (arguments : Arguments) : Logged (Except RecordError String) :=
  match arguments.command.record with
  | .ok record =>
      ⟨.ok (record.describe arguments.json), [⟨.info, "constructed " ++ record.debug⟩]⟩
  | .error error => ⟨.error error, []⟩

end Arguments

end PointRecords.CommandLine
