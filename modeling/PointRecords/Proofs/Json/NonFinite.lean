import PointRecords.Proofs.CommandLine.JsonPoint

/-!
# Coordinates that JSON cannot carry

Whatever its coordinates are, a point is written as an object of its three members.
A coordinate that is no real number is written as null, and there the reader stops: it
has read the members before it, and expects a number.
-/

namespace PointRecords

namespace Json

open Decimal

/-- What is written for a coordinate: a numeral that is read as the coordinate, or null
if there is none. -/
def WrittenAt (text : List Char) (coordinate : Coordinate) (rest : List Char) : Prop :=
  coordinate.isFinite = true ∧ CoordinateAt text coordinate rest ∨
    coordinate.isFinite = false ∧ text = 'n' :: 'u' :: 'l' :: 'l' :: rest

theorem writtenAt_coordinateText (coordinate : Coordinate) (rest : List Char) :
    WrittenAt ((coordinateText coordinate).toList ++ rest) coordinate rest := by
  cases finite : coordinate.isFinite with
  | true => exact Or.inl ⟨finite, coordinateAt_coordinateText finite rest⟩
  | false => exact Or.inr ⟨finite, by simp [coordinateText, finite]⟩

theorem WrittenAt.derives {text rest : List Char} {coordinate : Coordinate}
    (written : WrittenAt text coordinate rest) : Derives .value text rest := by
  rcases written with ⟨-, numeral, -, spelled, -⟩ | ⟨-, rfl⟩
  · exact .numeral spelled
  · exact .null

/-! ## The text is a value -/

theorem lead_of_isPlainName {name : List Char} (plain : IsPlainName name) (valueText : List Char) :
    Lead .object ('"' :: (name ++ '"' :: ':' :: valueText)) valueText :=
  ⟨_, _, _, _, blanks_refl _, stringAt_of_isPlainName plain _, blanks_refl _, blanks_refl _⟩

/-- What is written for a record is a value, if its texts are values. -/
theorem derives_write {names texts : Triple String}
    (plain : ∀ place, IsPlainName (names.get place).toList)
    (isValue : ∀ place rest, Derives .value ((texts.get place).toList ++ rest) rest) :
    Derives .value (write names texts).toList [] := by
  rw [toList_write]
  refine @Derives.full .object _ _ ?_
  refine .more (lead_of_isPlainName (plain .first) _) (isValue .first _) (blanks_refl _) ?_
  refine .more (lead_of_isPlainName (plain .second) _) (isValue .second _) (blanks_refl _) ?_
  exact .last (lead_of_isPlainName (plain .third) _) (isValue .third _) (blanks_refl _)

/-! ## Reading stops at null -/

/-- The fault of a null in the place of a coordinate. -/
def nullFault : Fault := .wrongType .null "f32"

theorem readField_null (rest : List Char) :
    readField pointShape ('n' :: 'u' :: 'l' :: 'l' :: rest) = .error nullFault := by
  have notStart : Numeral.isStart 'n' = false := by decide
  simp [readField, isBlank, notStart, mistyped, mistypedWord, skipWord, nullFault, pointShape]

/-- A null is refused, and what comes before it is read: so the members from here on are
refused if a null is among them. -/
theorem readMembers_refused (place : Place) {coordinate : Coordinate}
    {found : Triple (Option Coordinate)} (isNew : found.get place = none) {isFirst : Bool}
    {text valueText rest after : List Char} {delimiter : Char}
    (before : BeforeMember isFirst text
      ('"' :: ((pointShape.names.get place).toList ++ '"' :: ':' :: valueText)))
    (written : WrittenAt valueText coordinate rest) (delimited : Blanks rest (delimiter :: after))
    (isDelimiter : IsDelimiter delimiter)
    (later : coordinate.isFinite = true →
      readMembers pointShape (found.set place (some coordinate)) false rest = .error nullFault) :
    readMembers pointShape found isFirst text = .error nullFault := by
  have isKey := readKey_of_key before (blanks_refl _)
    (stringAt_of_isPlainName (Point.isPlainName_pointShape place) (':' :: valueText))
  have isPlace := (isNamed_pointShape _ place).mpr rfl
  have colon := readColon_eq_ok_iff.mpr (blanks_refl (':' :: valueText))
  rw [readMembers_of_key isKey]
  rcases written with ⟨finite, isCoordinate⟩ | ⟨-, rfl⟩
  · have isField : pointShape.FieldAt valueText coordinate rest := isCoordinate
    have read := readField_of_field (blanks_refl _) isField delimited isDelimiter
    simpa [readMember, isPlace, isNew, colon, read, bind, Except.bind] using later finite
  · have refused := readField_null rest
    simp [readMember, isPlace, isNew, colon, refused, bind, Except.bind]

end Json

namespace Point

open Json

theorem writtenAt_get (point : Point) (place : Place) (rest : List Char) :
    WrittenAt (((point.toTriple.map coordinateText).get place).toList ++ rest)
      (point.toTriple.get place) rest := by
  cases place <;> exact writtenAt_coordinateText _ rest

/-- The text of a point that is not finite is refused at the first null. -/
theorem read_toJson_of_not_finite {point : Point} (infinite : point.isFinite = false) :
    Json.read pointShape point.toJson.toList = .error nullFault := by
  have comma : ∀ member, BeforeMember false (',' :: member) member := fun member => blanks_refl _
  have refused : readRecord pointShape point.toJson.toList = .error nullFault := by
    rw [toJson, toList_write]
    change readMembers pointShape ⟨none, none, none⟩ true _ = _
    refine readMembers_refused .first rfl rfl (point.writtenAt_get .first _) (blanks_refl _)
      (Or.inl rfl) fun firstFinite => ?_
    refine readMembers_refused .second rfl (comma _) (point.writtenAt_get .second _) (blanks_refl _)
      (Or.inl rfl) fun secondFinite => ?_
    refine readMembers_refused .third rfl (comma _) (point.writtenAt_get .third _) (blanks_refl _)
      (Or.inr ⟨.object, rfl⟩) fun thirdFinite => ?_
    have finite : point.isFinite = true := by
      simp only [isFinite, Bool.and_eq_true]
      exact ⟨⟨firstFinite, secondFinite⟩, thirdFinite⟩
    rw [infinite] at finite
    cases finite
  simp [Json.read, refused]

theorem ofJson_toJson_eq (point : Point) :
    ofJson point.toJson = if point.isFinite then .ok point else .error nullFault := by
  cases finite : point.isFinite with
  | true =>
      rw [ofJson, (read_eq_ok_iff isNamed_pointShape).mpr (recordText_toJson finite)]
      rfl
  | false =>
      rw [ofJson, read_toJson_of_not_finite finite]
      rfl

/-- The JSON text of any point is an object with its three members in order.  It is read
if the point is finite, and then as this point; otherwise it is refused for a null in the
place of a number, which is no fault of the text. -/
theorem ofJson_toJson_eq_ok_iff_isFinite (point : Point) :
    (∃ texts : Triple String,
      point.toJson = "\x7b\"x\":" ++ texts.first ++ ",\"y\":" ++ texts.second ++ ",\"z\":" ++
        texts.third ++ "\x7d" ∧
      ∀ place, WrittenAt (texts.get place).toList (point.toTriple.get place) []) ∧
    Derives .value point.toJson.toList [] ∧
    ((∃ other, ofJson point.toJson = .ok other) ↔ point.isFinite = true) ∧
    (∀ other, ofJson point.toJson = .ok other ↔ other.isFinite = true ∧ other = point) ∧
    (ofJson point.toJson = .error nullFault ↔ point.isFinite = false) ∧
    nullFault.category.name = "Data" ∧ nullFault.message = "invalid type: null, expected f32" := by
  have isValue := derives_write isPlainName_pointShape fun place rest =>
    (point.writtenAt_get place rest).derives
  refine ⟨⟨point.toTriple.map coordinateText, ?_, fun place => ?_⟩, isValue, ?_⟩
  · delta toJson write
    simp [pointShape, String.append_assoc]
  · simpa using point.writtenAt_get place []
  · rw [ofJson_toJson_eq]
    cases finite : point.isFinite with
    | true =>
        refine ⟨by simp, fun other => ?_, by simp, by decide, by decide⟩
        simp only [if_true, Except.ok.injEq]
        constructor
        · rintro rfl
          exact ⟨finite, rfl⟩
        · rintro ⟨-, rfl⟩
          rfl
    | false =>
        refine ⟨by simp, fun other => ?_, by simp, by decide, by decide⟩
        simp only [Bool.false_eq_true, if_false, reduceCtorEq, false_iff]
        rintro ⟨otherFinite, rfl⟩
        rw [finite] at otherFinite
        cases otherFinite

end Point

end PointRecords
