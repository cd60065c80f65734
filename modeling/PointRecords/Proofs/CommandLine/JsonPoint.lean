import PointRecords.Proofs.CommandLine.PlainPoint
import PointRecords.Proofs.Json.Coordinates

/-!
# Points printed as JSON

What the program prints for a finite point when it is asked for JSON is read as
this point, bit by bit.
-/

namespace PointRecords

open Json CommandLine

theorem CommandLine.readArguments_json (subcommand : Subcommand) (rest : List String) :
    readArguments ("--json" :: subcommand.name :: rest) = readSubcommand ⟨true, 0⟩ rest subcommand := by
  cases subcommand with
  | xyz => rfl
  | rgb => rfl
  | rgb16 => rfl

namespace Point

theorem isPlainName_pointShape (place : Place) :
    IsPlainName (pointShape.names.get place).toList := by
  cases place with
  | first => exact (isPlainName_singleton (by decide) : IsPlainName ['x'])
  | second => exact (isPlainName_singleton (by decide) : IsPlainName ['y'])
  | third => exact (isPlainName_singleton (by decide) : IsPlainName ['z'])

theorem recordText_toJson {point : Point} (finite : point.isFinite = true) :
    RecordText pointShape.names CoordinateAt point.toJson.toList point.toTriple := by
  refine recordText_write isPlainName_pointShape fun place rest => ?_
  have textEq : (point.toTriple.map coordinateText).get place =
      coordinateText (point.toTriple.get place) := by
    cases place <;> rfl
  rw [textEq]
  exact coordinateAt_coordinateText (isFinite_get finite place) rest

/-- The JSON text of a finite point, as the program prints it, is read as the point. -/
theorem ofJson_toJson (point : Point) (finite : point.isFinite = true)
    (specification : Option String) (time : String) :
    let words := "--json" :: "xyz" :: (point.toTriple.map (Coordinate.text .plain)).toList
    (execute words specification time).exitCode = 0 ∧
      (execute words specification time).output = point.toJson ++ "\n" ∧
      ofJson point.toJson = .ok point := by
  intro words
  have arguments : readArguments words = .ok ⟨true, 0, .point point.toTriple⟩ := by
    change readArguments ("--json" :: Subcommand.xyz.name :: _) = _
    rw [readArguments_json]
    exact readSubcommand_displayed finite ⟨true, 0⟩
  have executed : execute words specification time =
      carryOut ⟨true, 0, .point point.toTriple⟩ specification time := by
    rw [execute, arguments]
  have read := (read_eq_ok_iff isNamed_pointShape).mpr (recordText_toJson finite)
  refine ⟨?_, ?_, ?_⟩
  · rw [executed]
    rfl
  · rw [executed]
    rfl
  · rw [ofJson, read]
    rfl

theorem one_lt_magnitudes : 1 < Binary.Format.single.magnitudes := by decide

/-- A zero with its sign, the largest finite magnitude, and the smallest one. -/
def jsonExtremes : Point :=
  ⟨⟨true, 0, Binary.Format.single.magnitudes_pos⟩, ⟨false, 0x7F7FFFFF, by decide⟩,
    ⟨true, 1, one_lt_magnitudes⟩⟩

theorem ofJson_toJson_extremes :
    jsonExtremes.isFinite = true ∧
      (execute ["--json", "xyz", "-0", "340282350000000000000000000000000000000",
        "-0.000000000000000000000000000000000000000000001"] none "").output =
          "\x7b\"x\":-0.0,\"y\":3.4028235e+38,\"z\":-1e-45\x7d\n" ∧
      ofJson "\x7b\"x\":-0.0,\"y\":3.4028235e+38,\"z\":-1e-45\x7d" = .ok jsonExtremes := by
  have finite : jsonExtremes.isFinite = true := by decide
  have texts : jsonExtremes.toTriple.map (Coordinate.text .plain) =
      ⟨"-0", "340282350000000000000000000000000000000",
        "-0.000000000000000000000000000000000000000000001"⟩ := by
    decide +kernel
  have json : jsonExtremes.toJson =
      "\x7b\"x\":-0.0,\"y\":3.4028235e+38,\"z\":-1e-45\x7d" := by
    decide +kernel
  obtain ⟨-, output, read⟩ := ofJson_toJson jsonExtremes finite none ""
  rw [json] at output read
  rw [texts] at output
  exact ⟨finite, output, read⟩

end Point

end PointRecords
