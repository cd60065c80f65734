import PointRecords.Proofs.Binary.RoundingTwice
import PointRecords.Proofs.CommandLine.PlainPoint
import PointRecords.Proofs.Json.Records
import PointRecords.Script.Construction

/-!
# Integers as coordinates

An integer can be typed as a coordinate, stand for one in a JSON text, or be handed over
by a script.  Typed integers and those of a text are rounded once.  Those of a script are
numbers of double precision first, so they are rounded twice, which makes a difference
for the integers that are moved to a tie.
-/

namespace PointRecords

open Decimal Binary CommandLine

/-! ## Rounding an integer -/

namespace Binary.Format

theorem ofDecimal_zero (format : Format) (coefficient : Nat) :
    format.ofDecimal coefficient 0 = format.nearest coefficient 1 := by
  rcases Nat.eq_zero_or_pos coefficient with rfl | positive
  · simp [ofDecimal, nearest, roundHalfEven]
  · have below : ¬ ((format.exponents : Int) < 0) := by omega
    have above : ¬ ((coefficient.log2 : Int) + 1 < -format.exponents) := by omega
    simp [ofDecimal, positive.ne', below, above]

end Binary.Format

namespace Binary.Pattern

variable {format : Format}

theorem ofDecimal_integer (number : Int) :
    (ofDecimal (number < 0) number.natAbs 0 : Pattern format) = ofInt number :=
  ext_iff.mpr ⟨rfl, format.ofDecimal_zero number.natAbs⟩

theorem isRounding_ofInt (hasFraction : 0 < format.fractionBits)
    (infinityPos : 0 < format.infinity) (number : Int) :
    (ofInt number : Pattern format).IsRounding (number < 0) number.natAbs := by
  have rounding := isRounding_round hasFraction infinityPos (number < 0) number.natAbs one_pos
  rwa [Nat.cast_one, div_one] at rounding

end Binary.Pattern

/-! ## An integer at each entrance -/

section Integer

variable {number : Int}

theorem natAbs_le_of_fitsInt64 (fits : FitsInt64 number) : number.natAbs ≤ 2 ^ 63 := by
  unfold FitsInt64 signedLimit at fits
  omega

theorem toList_integerText (number : Int) :
    (integerText number).toList = (if decide (number < 0) then ['-'] else []) ++
      ((writtenDigits number.natAbs).map digitChar ++ pointed false []) := by
  rw [integerText, String.toList_ofList, integer, natural_eq, pointed, if_pos rfl,
    if_neg Bool.false_ne_true, List.append_nil]
  by_cases negative : number < 0 <;> simp [negative]

theorem isPlainDecimal_integerText (number : Int) :
    IsPlainDecimal (integerText number).toList :=
  ⟨_, _, _, toList_integerText number, areDigits_writtenDigits _, areDigits_nil,
    writtenDigits_ne_nil _, noLeadingZero_writtenDigits _, by simp⟩

theorem readCoordinate_integerText (number : Int) :
    readCoordinate (integerText number) = .ok (.ofInt number) := by
  rw [readCoordinate, toList_integerText, readLiteral_plain _ (areDigits_writtenDigits _)
    areDigits_nil (writtenDigits_ne_nil _), List.append_nil, value_writtenDigits]
  exact congrArg Except.ok (Pattern.ofDecimal_integer number)

/-- The numeral of an integer. -/
def integerNumeral (number : Int) : Json.Numeral :=
  ⟨decide (number < 0), writtenDigits number.natAbs, [], none⟩

theorem evaluate_integerNumeral (fits : FitsInt64 number) :
    (integerNumeral number).evaluate = some (.integer number) := by
  unfold FitsInt64 signedLimit at fits
  rcases lt_or_ge number 0 with negative | nonneg
  · have nonzero : number.natAbs ≠ 0 := by omega
    have within : number.natAbs ≤ signedLimit := by
      unfold signedLimit
      omega
    have numberEq : -|number| = number := by rw [abs_of_neg negative, neg_neg]
    simp [integerNumeral, Json.Numeral.evaluate, Json.Numeral.isInteger, negative, nonzero, within,
      numberEq]
  · have within : number.natAbs < Json.Numeral.unsignedLimit := by
      unfold Json.Numeral.unsignedLimit
      omega
    simp [integerNumeral, Json.Numeral.evaluate, Json.Numeral.isInteger, not_lt.mpr nonneg, within,
      abs_of_nonneg nonneg]

theorem coordinateAt_integerText (fits : FitsInt64 number) (rest : List Char) :
    Json.CoordinateAt ((integerText number).toList ++ rest) (.ofInt number) rest := by
  have isUnsigned : Json.Numeral.UnsignedAt ((writtenDigits number.natAbs).map digitChar ++ rest)
      (integerNumeral number) rest :=
    ⟨writtenDigits_ne_nil _, areDigits_writtenDigits _, noLeadingZero_writtenDigits _, _, _, rfl,
      Or.inl ⟨rfl, rfl⟩, .absent⟩
  refine ⟨integerNumeral number, .integer number, ⟨_, ?_, isUnsigned⟩,
    evaluate_integerNumeral fits, rfl⟩
  rw [toList_integerText, pointed, if_pos rfl, if_neg Bool.false_ne_true, List.append_nil,
    List.append_assoc]
  rfl

theorem nearest_le_of_fitsInt64 {format : Format} (hasFraction : 0 < format.fractionBits)
    (fits : FitsInt64 number) : format.nearest number.natAbs 1 ≤ format.nearest (2 ^ 63) 1 :=
  Format.nearest_le_nearest hasFraction one_pos (natAbs_le_of_fitsInt64 fits)

theorem nearest_single_lt_infinity (fits : FitsInt64 number) :
    Format.single.nearest number.natAbs 1 < Format.single.infinity :=
  (nearest_le_of_fitsInt64 (by decide) fits).trans_lt (by decide +kernel)

theorem nearest_double_lt_infinity (fits : FitsInt64 number) :
    Format.double.nearest number.natAbs 1 < Format.double.infinity :=
  (nearest_le_of_fitsInt64 (by decide) fits).trans_lt (by decide +kernel)

theorem convert_nearest_lt_infinity (fits : FitsInt64 number) :
    Format.double.convert .single (Format.double.nearest number.natAbs 1) <
      Format.single.infinity := by
  have le : Format.double.nearest number.natAbs 1 ≤ Format.double.nearest (2 ^ 63) 1 :=
    nearest_le_of_fitsInt64 (by decide) fits
  have finite : Format.double.nearest (2 ^ 63) 1 < Format.double.infinity := by decide +kernel
  exact (Format.convert_le_convert (by decide) le finite).trans_lt (by decide +kernel)

theorem realOfInteger_eq (fits : FitsInt64 number) :
    Script.realOfInteger number = .ok (.ofInt number) := by
  have finite : (Pattern.ofInt number : Pattern .double).isFinite = true :=
    Pattern.isFinite_iff.mpr (nearest_double_lt_infinity fits)
  exact if_pos finite

theorem coordinate_integer (fits : FitsInt64 number) :
    Script.coordinate (.integer number) =
      .ok ((Pattern.ofInt number : Pattern .double).convert .single) := by
  change (Script.realOfInteger number).map _ = _
  rw [realOfInteger_eq fits, Except.map]

/-- The two ways to round an integer lead apart exactly if double precision moves it to a
tie. -/
theorem convert_ofInt_ne_iff (fits : FitsInt64 number) :
    (Pattern.ofInt number : Pattern .double).convert .single ≠ Pattern.ofInt number ↔
      Format.single.MovesToTie number.natAbs
        (Format.double.real (Format.double.ofNat number.natAbs)) := by
  have apart := Format.convert_nearest_ne_iff Format.isWider_single_double (by decide) (by decide)
    one_pos (nearest_single_lt_infinity fits) (nearest_double_lt_infinity fits)
    (convert_nearest_lt_infinity fits)
  rw [Nat.cast_one, div_one] at apart
  rw [Ne, Pattern.ext_iff, Pattern.negative_convert, Pattern.magnitude_convert,
    Pattern.negative_ofInt, Pattern.negative_ofInt, Pattern.magnitude_ofInt,
    Pattern.magnitude_ofInt, eq_self_iff_true, true_and]
  exact apart

end Integer

/-! ## Points with integers in them -/

/-- A coordinate as it is given: as an integer of 64 bits, or as any other. -/
inductive Entry
  | whole (number : Int) (fits : FitsInt64 number)
  | other (coordinate : Coordinate)

namespace Entry

/-- The coordinate of an entry, if an integer is rounded once. -/
def atOnce : Entry → Coordinate
  | .whole number _ => .ofInt number
  | .other coordinate => coordinate

/-- The coordinate of an entry, if an integer is rounded to double precision first. -/
def viaDouble : Entry → Coordinate
  | .whole number _ => (Pattern.ofInt number : Pattern .double).convert .single
  | .other coordinate => coordinate

/-- The text that an entry is typed as. -/
def IsTyped (text : String) : Entry → Prop
  | .whole number _ => text = integerText number
  | .other coordinate => pointValues.IsValue text ∧ readCoordinate text = .ok coordinate

/-- The number of a field. -/
def FieldAt (text : List Char) (entry : Entry) (rest : List Char) : Prop :=
  match entry with
  | .whole number _ => text = (integerText number).toList ++ rest
  | .other coordinate => Json.CoordinateAt text coordinate rest

/-- The value that a script hands over. -/
def IsGiven (value : Script.Value) : Entry → Prop
  | .whole number _ => value = .integer number
  | .other coordinate => Script.coordinate value = .ok coordinate

variable {entry : Entry}

theorem isValue_of_isTyped {text : String} (isTyped : entry.IsTyped text) :
    pointValues.IsValue text ∧ readCoordinate text = .ok entry.atOnce := by
  cases entry with
  | whole number fits =>
      obtain rfl := isTyped
      exact ⟨isValue_of_isPlainDecimal (isPlainDecimal_integerText number),
        readCoordinate_integerText number⟩
  | other coordinate => exact isTyped

theorem coordinateAt_of_fieldAt {text rest : List Char} (isField : FieldAt text entry rest) :
    Json.CoordinateAt text entry.atOnce rest := by
  cases entry with
  | whole number fits =>
      obtain rfl := isField
      exact coordinateAt_integerText fits rest
  | other coordinate => exact isField

theorem coordinate_of_isGiven {value : Script.Value} (isGiven : entry.IsGiven value) :
    Script.coordinate value = .ok entry.viaDouble := by
  cases entry with
  | whole number fits =>
      obtain rfl := isGiven
      exact coordinate_integer fits
  | other coordinate => exact isGiven

end Entry

variable {entries : Triple Entry}

theorem readArguments_of_isTyped {texts : Triple String}
    (areTyped : ∀ place, (entries.get place).IsTyped (texts.get place)) :
    readArguments ("xyz" :: texts.toList) = .ok ⟨false, 0, .point (entries.map Entry.atOnce)⟩ := by
  have isValue : ∀ place, pointValues.IsValue (texts.get place) := fun place =>
    (Entry.isValue_of_isTyped (areTyped place)).1
  have convert : ∀ place, pointValues.convert (texts.get place) =
      .ok ((entries.map Entry.atOnce).get place) := by
    intro place
    have entryEq : (entries.map Entry.atOnce).get place = (entries.get place).atOnce := by
      cases place <;> rfl
    rw [entryEq]
    exact (Entry.isValue_of_isTyped (areTyped place)).2
  change readArguments (Subcommand.xyz.name :: texts.toList) = _
  rw [readArguments_subcommand]
  exact readValues_of_convert .none isValue convert

theorem ofJson_of_fieldAt {text : String}
    (isRecord : Json.RecordText ⟨"x", "y", "z"⟩ Entry.FieldAt text.toList entries) :
    Point.ofJson text = .ok (.ofTriple (entries.map Entry.atOnce)) := by
  have coordinates : Json.RecordText ⟨"x", "y", "z"⟩ Json.CoordinateAt text.toList
      (entries.map Entry.atOnce) :=
    isRecord.map fun _ _ _ isField => Entry.coordinateAt_of_fieldAt isField
  have read := (Json.read_eq_ok_iff Json.isNamed_pointShape).mpr coordinates
  rw [Point.ofJson, read]
  rfl

theorem construct_of_isGiven {values : Triple Script.Value}
    (areGiven : ∀ place, (entries.get place).IsGiven (values.get place)) :
    Script.construct .point values.toList [] =
      .ok (.point (.ofTriple (entries.map Entry.viaDouble))) := by
  have first := Entry.coordinate_of_isGiven (areGiven .first)
  have second := Entry.coordinate_of_isGiven (areGiven .second)
  have third := Entry.coordinate_of_isGiven (areGiven .third)
  simp only [Triple.get] at first second third
  simp only [Script.construct, Script.constructOn, Triple.toList, Script.fromThree, first, second,
    third]
  rfl

/-- Integers of 64 bits that are typed or stand in a JSON text are rounded once, in every
place and next to any other coordinates.  Those of a script are rounded to double
precision and then again, which differs exactly where the first rounding ends at a tie. -/
theorem whole_coordinates (entries : Triple Entry) :
    (∀ texts : Triple String, (∀ place, (entries.get place).IsTyped (texts.get place)) →
      readArguments ("xyz" :: texts.toList) =
          .ok ⟨false, 0, .point (entries.map Entry.atOnce)⟩ ∧
        (Command.point (entries.map Entry.atOnce)).record =
          .ok (.point (.ofTriple (entries.map Entry.atOnce)))) ∧
    (∀ text : String, Json.RecordText ⟨"x", "y", "z"⟩ Entry.FieldAt text.toList entries →
      Point.ofJson text = .ok (.ofTriple (entries.map Entry.atOnce))) ∧
    (∀ values : Triple Script.Value, (∀ place, (entries.get place).IsGiven (values.get place)) →
      Script.construct .point values.toList [] =
        .ok (.point (.ofTriple (entries.map Entry.viaDouble)))) ∧
    ∀ number fits,
      (Entry.whole number fits).atOnce.IsRounding (number < 0) number.natAbs ∧
      (∃ double : Pattern .double, double.IsRounding (number < 0) number.natAbs ∧
        (Entry.whole number fits).viaDouble.IsRounded double ∧
        ((Entry.whole number fits).viaDouble ≠ (Entry.whole number fits).atOnce ↔
          Format.single.MovesToTie number.natAbs (Format.double.real double.magnitude))) := by
  refine ⟨fun texts areTyped => ⟨readArguments_of_isTyped areTyped, rfl⟩,
    fun text => ofJson_of_fieldAt, fun values => construct_of_isGiven, fun number fits => ?_⟩
  refine ⟨Pattern.isRounding_ofInt (by decide) (by decide) number, .ofInt number,
    Pattern.isRounding_ofInt (by decide) (by decide) number, ?_, convert_ofInt_ne_iff fits⟩
  apply Pattern.isRounded_convert (by decide) (by decide)
  exact Pattern.isNaN_eq_false_iff.mpr (nearest_double_lt_infinity fits).le

/-- Three integers in a row. -/
theorem made_of_integers {first second third : Int} (firstFits : FitsInt64 first)
    (secondFits : FitsInt64 second) (thirdFits : FitsInt64 third) :
    readArguments ["xyz", integerText first, integerText second, integerText third] =
        .ok ⟨false, 0, .point ⟨.ofInt first, .ofInt second, .ofInt third⟩⟩ ∧
      Script.construct .point [.integer first, .integer second, .integer third] [] =
        .ok (.point ⟨(Pattern.ofInt first : Pattern .double).convert .single,
          (Pattern.ofInt second : Pattern .double).convert .single,
          (Pattern.ofInt third : Pattern .double).convert .single⟩) := by
  let entries : Triple Entry := ⟨.whole first firstFits, .whole second secondFits,
    .whole third thirdFits⟩
  have areTyped : ∀ place, (entries.get place).IsTyped
      ((⟨integerText first, integerText second, integerText third⟩ : Triple String).get place) := by
    intro place
    cases place <;> rfl
  have areGiven : ∀ place, (entries.get place).IsGiven
      ((⟨.integer first, .integer second, .integer third⟩ : Triple Script.Value).get place) := by
    intro place
    cases place <;> rfl
  have typed := readArguments_of_isTyped areTyped
  have given := construct_of_isGiven areGiven
  simp only [entries, Triple.map, Triple.toList, Point.ofTriple, Entry.atOnce, Entry.viaDouble]
    at typed given
  exact ⟨typed, given⟩

/-- An integer just above the middle of two coordinates, of which the lower one is even.
Typed it becomes the upper one, which is nearer.  A script is given the lower one. -/
theorem typed_and_given_apart :
    FitsInt64 9007199791611905 ∧
      readArguments ["xyz", "9007199791611905", "0", "0"] =
        .ok ⟨false, 0, .point ⟨.round false (2 ^ 53 + 2 ^ 30) 1, .zero, .zero⟩⟩ ∧
      Script.construct .point [.integer 9007199791611905, .integer 0, .integer 0] [] =
        .ok (.point ⟨.round false (2 ^ 53) 1, .zero, .zero⟩) ∧
      (Pattern.round false (2 ^ 53 + 2 ^ 30) 1 : Coordinate).IsRounding false 9007199791611905 ∧
      ¬ (Pattern.round false (2 ^ 53) 1 : Coordinate).IsRounding false 9007199791611905 := by
  have fits : FitsInt64 9007199791611905 := by decide
  have zeroFits : FitsInt64 0 := by decide
  have upperEq : (Pattern.ofInt 9007199791611905 : Coordinate) = .round false (2 ^ 53 + 2 ^ 30) 1 :=
    Pattern.ext_iff.mpr (by decide +kernel)
  have lowerEq : (Pattern.ofInt 9007199791611905 : Pattern .double).convert .single =
      .round false (2 ^ 53) 1 := Pattern.ext_iff.mpr (by decide +kernel)
  have zeroEq : (Pattern.ofInt 0 : Coordinate) = .zero := Pattern.ext_iff.mpr (by decide +kernel)
  have zeroTwiceEq : (Pattern.ofInt 0 : Pattern .double).convert .single = .zero :=
    Pattern.ext_iff.mpr (by decide +kernel)
  have text : integerText 9007199791611905 = "9007199791611905" := by decide +kernel
  have zeroText : integerText 0 = "0" := by decide +kernel
  have rounds : (Pattern.ofInt 9007199791611905 : Coordinate).IsRounding false 9007199791611905 :=
    Pattern.isRounding_ofInt (by decide) (by decide) 9007199791611905
  have different : (Pattern.round false (2 ^ 53) 1 : Coordinate).magnitude ≠
      (Pattern.round false (2 ^ 53 + 2 ^ 30) 1 : Coordinate).magnitude := by decide +kernel
  obtain ⟨typed, given⟩ := made_of_integers fits zeroFits zeroFits
  rw [text, zeroText, upperEq, zeroEq] at typed
  rw [lowerEq, zeroTwiceEq] at given
  rw [upperEq] at rounds
  exact ⟨fits, typed, given, rounds, fun lowerRounds =>
    different (congrArg Pattern.magnitude (lowerRounds.unique rounds))⟩

end PointRecords
