import PointRecords.Proofs.CommandLine.Values
import PointRecords.Proofs.Decimal.ReadBack

/-!
# Points typed as they are printed

The texts that are printed for the coordinates of a finite point can be typed in
again.  A minus sign makes such a text no flag, because what follows it has the
shape of a number; so the program takes the three texts, makes the point they
came from, and prints them once more.
-/

namespace PointRecords

open Decimal Binary

namespace CommandLine

theorem isNumberShaped_pointed {whole fraction : List Nat} (wholeDigits : AreDigits whole)
    (fractionDigits : AreDigits fraction) (nonempty : whole ≠ []) :
    isNumberShaped (whole.map digitChar ++ pointed false fraction) = true := by
  by_cases noFraction : fraction = []
  · have run := digitRun_append wholeDigits noDigit_nil
    rw [List.append_nil] at run
    simp [isNumberShaped, pointed, noFraction, run, nonempty]
  · have stops : NoDigit ('.' :: fraction.map digitChar) := noDigit_cons.mpr rfl
    have run := digitRun_append wholeDigits stops
    have fractionRun := digitRun_append fractionDigits noDigit_nil
    rw [List.append_nil] at fractionRun
    simp [isNumberShaped, pointed, noFraction, run, fractionRun, nonempty]

/-- The values of a point on the command line. -/
def pointValues : Positionals Coordinate := ⟨.xyz, true, readCoordinate, .point⟩

/-- A plain decimal stands for a value, also behind a minus sign. -/
theorem isValue_of_isPlainDecimal {text : String} (plain : IsPlainDecimal text.toList) :
    pointValues.IsValue text := by
  obtain ⟨negative, whole, fraction, textEq, wholeDigits, fractionDigits, nonempty, -, -⟩ := plain
  have shaped := isNumberShaped_pointed wholeDigits fractionDigits nonempty
  obtain ⟨digit, more, rfl⟩ := List.exists_cons_of_ne_nil nonempty
  have notDash := (digitChar_ne_sign (areDigits_cons.mp wholeDigits).1).2
  rw [List.map_cons, List.cons_append] at textEq shaped
  generalize more.map digitChar ++ pointed false fraction = rest at textEq shaped
  cases negative with
  | false =>
      left
      simp [Word.ofText, textEq, notDash]
  | true =>
      right
      refine ⟨digitChar digit :: rest, ?_, rfl, shaped⟩
      simp [Word.ofText, textEq, notDash]

/-- The plain text of a finite coordinate is read as the coordinate. -/
theorem readCoordinate_text {coordinate : Coordinate} (finite : coordinate.isFinite) :
    readCoordinate (coordinate.text .plain) = .ok coordinate := by
  rw [readCoordinate, Coordinate.text, String.toList_ofList,
    Pattern.readLiteral_write Format.isProper_single Format.suffices_single finite]
  rfl

/-- A text of a coordinate is a plain decimal of at most nine significant digits,
and no text with fewer of them is read as the coordinate. -/
structure IsShortestText (coordinate : Coordinate) (text : String) : Prop where
  plain : IsPlainDecimal text.toList
  digits_le : significantDigits text.toList ≤ 9
  least : ∀ other, readCoordinate other = .ok coordinate →
    significantDigits text.toList ≤ significantDigits other.toList

theorem isShortestText_text {coordinate : Coordinate} (finite : coordinate.isFinite) :
    IsShortestText coordinate (coordinate.text .plain) := by
  refine ⟨?_, ?_, ?_⟩
  · simpa [Coordinate.text] using Pattern.isPlainDecimal_write finite
  · simpa [Coordinate.text] using
      Pattern.significantDigits_write_le Format.suffices_single finite
  · intro other read
    have readLiteral : readLiteral .single other.toList = .ok coordinate := by
      rw [readCoordinate] at read
      cases result : Decimal.readLiteral .single other.toList with
      | error fault =>
          rw [result] at read
          cases read
      | ok pattern =>
          rw [result] at read
          cases read
          rfl
    simpa [Coordinate.text] using Pattern.significantDigits_write_le_of_readLiteral
      Format.isProper_single Format.suffices_single finite readLiteral

end CommandLine

namespace Point

open CommandLine

theorem isFinite_get {point : Point} (finite : point.isFinite = true) (place : Place) :
    (point.toTriple.get place).isFinite = true := by
  simp only [isFinite, Bool.and_eq_true] at finite
  cases place with
  | first => exact finite.1.1
  | second => exact finite.1.2
  | third => exact finite.2

theorem readSubcommand_displayed {point : Point} (finite : point.isFinite = true)
    (before : Switches) :
    readSubcommand before (point.toTriple.map (Coordinate.text .plain)).toList .xyz =
      .ok ⟨before.json, before.verbose, .point point.toTriple⟩ := by
  have finiteAt := isFinite_get finite
  have textEq : ∀ place, (point.toTriple.map (Coordinate.text .plain)).get place =
      (point.toTriple.get place).text .plain := by
    intro place
    cases place <;> rfl
  generalize point.toTriple.map (Coordinate.text .plain) = texts at textEq ⊢
  have isValue : ∀ place, pointValues.IsValue (texts.get place) := by
    intro place
    rw [textEq]
    exact isValue_of_isPlainDecimal (isShortestText_text (finiteAt place)).plain
  have convert : ∀ place, pointValues.convert (texts.get place) =
      .ok (point.toTriple.get place) := by
    intro place
    rw [textEq]
    exact readCoordinate_text (finiteAt place)
  exact readValues_of_convert before isValue convert

/-- The texts of the coordinates of a finite point are shortest, and the program
that is given them makes this point and prints them. -/
theorem execute_displayed (point : Point) (finite : point.isFinite = true)
    (specification : Option String) (time : String) :
    let texts := point.toTriple.map (Coordinate.text .plain)
    let words := "xyz" :: texts.toList
    point.display = bracketed texts ∧
      readArguments words = .ok ⟨false, 0, .point point.toTriple⟩ ∧
      (Command.point point.toTriple).record = .ok (.point point) ∧
      (execute words specification time).exitCode = 0 ∧
      (execute words specification time).output = point.display ++ "\n" ∧
      ∀ place, IsShortestText (point.toTriple.get place) (texts.get place) := by
  intro texts words
  have finiteAt := isFinite_get finite
  have shortest : ∀ place, IsShortestText (point.toTriple.get place) (texts.get place) := by
    intro place
    have : texts.get place = (point.toTriple.get place).text .plain := by cases place <;> rfl
    rw [this]
    exact isShortestText_text (finiteAt place)
  have arguments : readArguments words = .ok ⟨false, 0, .point point.toTriple⟩ := by
    change readArguments (Subcommand.xyz.name :: texts.toList) = _
    rw [readArguments_subcommand]
    exact readSubcommand_displayed finite .none
  have executed : execute words specification time =
      carryOut ⟨false, 0, .point point.toTriple⟩ specification time := by
    rw [execute, arguments]
  refine ⟨rfl, arguments, rfl, ?_, ?_, shortest⟩
  · rw [executed]
    rfl
  · rw [executed]
    rfl

/-- A zero with its sign, the smallest magnitude, and a power of two. -/
def extremes : Point :=
  ⟨⟨true, 0, by decide⟩, ⟨false, 1, by decide⟩, ⟨true, 0x4C000000, by decide⟩⟩

theorem execute_displayed_extremes :
    extremes.isFinite = true ∧
      readArguments ["xyz", "-0", "0.000000000000000000000000000000000000000000001",
        "-33554432"] = .ok ⟨false, 0, .point extremes.toTriple⟩ ∧
      (execute ["xyz", "-0", "0.000000000000000000000000000000000000000000001",
        "-33554432"] none "").output =
          "(-0, 0.000000000000000000000000000000000000000000001, -33554432)\n" := by
  have finite : extremes.isFinite = true := by decide
  have texts : extremes.toTriple.map (Coordinate.text .plain) =
      ⟨"-0", "0.000000000000000000000000000000000000000000001", "-33554432"⟩ := by
    decide +kernel
  obtain ⟨display, arguments, -, -, output, -⟩ := execute_displayed extremes finite none ""
  rw [display, texts] at output
  rw [texts] at arguments
  exact ⟨finite, arguments, output⟩

end Point

end PointRecords
