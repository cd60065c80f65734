import PointRecords.Proofs.Binary.NearestEven
import PointRecords.Proofs.Json.FaithfulReading

/-!
# The texts of a coordinate

A coordinate has three texts: the plain one, the one for debugging and the one in JSON.
They place their digits by different rules, and they settle ties between two nearest
decimals differently.  All of them have as few significant digits as any decimal that
rounds to the coordinate, and they stand for the same decimal, unless the coordinate is
exactly half way between two.
-/

namespace PointRecords

open Decimal Binary

/-! ## Ties -/

namespace Decimal.Span

/-- Two multiples that are found with different rules for ties have the middle between
them, if they are not the same: the rules differ only where the rest is exactly half a
step. -/
theorem nearestMultiple?_tie {span : Span} {tie other : Tie}
    {numerator denominator first second : Nat} (denominatorPos : 0 < denominator)
    (found : span.nearestMultiple? tie numerator denominator = some first)
    (otherFound : span.nearestMultiple? other numerator denominator = some second) :
    first = second ∨
      ((first + second : Nat) : ℚ) * (numerator / denominator) = 2 * span.middle := by
  have around := (nearestMultiple?_some denominatorPos found).2
  have otherAround := (nearestMultiple?_some denominatorPos otherFound).2
  by_cases same : first = second
  · exact Or.inl same
  · right
    have half : 2 * (span.middle * denominator % numerator) = numerator := by
      simp only [nearestMultiple?] at found otherFound
      split at found
      · split at found
        · simp_all
        · split at found
          · simp_all
          · omega
      · simp_all
      · simp_all
      · cases found
    have sum : first + second = 2 * span.below numerator denominator + 1 := by omega
    have product : (first + second) * numerator = 2 * span.middle * denominator := by
      calc (first + second) * numerator
          = 2 * (numerator * span.below numerator denominator) + numerator := by
            rw [sum]
            ring
        _ = 2 * (numerator * span.below numerator denominator +
              span.middle * denominator % numerator) := by rw [Nat.mul_add, half]
        _ = 2 * span.middle * denominator := by
            rw [below, Nat.div_add_mod, Nat.mul_assoc]
    rw [← mul_div_assoc, div_eq_iff (by exact_mod_cast denominatorPos.ne')]
    exact_mod_cast product

end Decimal.Span

namespace Binary.Format

variable {format : Format} {magnitude : Nat}

/-- Whether there is a decimal of some length does not depend on the rule for ties. -/
theorem decimalOfLength?_ne_none_of_some {tie other : Tie} {length : Nat} {decimal : Scientific}
    (positive : 0 < magnitude) (lengthPos : 0 < length)
    (found : format.decimalOfLength? tie magnitude length = some decimal) :
    format.decimalOfLength? other magnitude length ≠ none := by
  intro notFound
  have known := found_of_decimalOfLength? positive lengthPos found
  apply not_roundsTo_of_decimalOfLength? notFound decimal.coefficient
  rw [← known.exponent_eq]
  exact known.roundsTo

/-- The shortest decimals of a magnitude are the same, or the magnitude is half way
between them. -/
theorem shortest_tie {enough : Nat} (enoughDigits : format.Suffices enough) (tie other : Tie)
    (magnitude : Nat) :
    (format.shortest tie magnitude).real = (format.shortest other magnitude).real ∨
      (format.shortest tie magnitude).real + (format.shortest other magnitude).real =
        2 * format.real magnitude := by
  rcases Nat.eq_zero_or_pos magnitude with rfl | positive
  · exact Or.inl rfl
  · obtain ⟨length, lengthPos, -, found, first⟩ := shortest_spec tie positive enoughDigits
    obtain ⟨otherLength, otherLengthPos, -, otherFound, otherFirst⟩ :=
      shortest_spec other positive enoughDigits
    have notLess : ¬ otherLength < length := fun less =>
      decimalOfLength?_ne_none_of_some positive otherLengthPos otherFound
        (first otherLength otherLengthPos less)
    have notGreater : ¬ length < otherLength := fun greater =>
      decimalOfLength?_ne_none_of_some positive lengthPos found
        (otherFirst length lengthPos greater)
    obtain rfl : length = otherLength := by omega
    rw [decimalOfLength?_eq, Option.map_eq_some_iff] at found otherFound
    obtain ⟨coefficient, foundMultiple, decimalEq⟩ := found
    obtain ⟨otherCoefficient, otherFoundMultiple, otherDecimalEq⟩ := otherFound
    rw [← decimalEq, ← otherDecimalEq]
    simp only [Scientific.real]
    rcases Span.nearestMultiple?_tie (gridDenominator_pos _) foundMultiple otherFoundMultiple with
      rfl | between
    · exact Or.inl rfl
    · right
      have halvesPos := format.cast_halvesInOne_pos.ne'
      apply mul_right_cancel₀ halvesPos
      rw [mul_assoc, real_mul_halvesInOne, ← between, grid_eq]
      push_cast
      ring

end Binary.Format

/-! ## Texts -/

namespace Json

/-- A text denotes this number with this sign. -/
def StandsFor (text : List Char) (negative : Bool) (number : ℚ) : Prop :=
  ∃ numeral : Numeral, numeral.SpelledAt text [] ∧ numeral.negative = negative ∧
    numeral.absolute = number

/-- A text denotes one number. -/
theorem StandsFor.unique {text : List Char} {first second : Bool} {number other : ℚ}
    (standsFor : StandsFor text first number) (otherStandsFor : StandsFor text second other) :
    first = second ∧ number = other := by
  obtain ⟨numeral, spelled, rfl, rfl⟩ := standsFor
  obtain ⟨otherNumeral, otherSpelled, rfl, rfl⟩ := otherStandsFor
  have stops : ∀ found : Numeral, found.Stops [] := fun _ => ⟨by simp, by simp, by simp⟩
  have scanned := Numeral.scan_eq_ok_iff.mpr ⟨spelled, stops numeral⟩
  have otherScanned := Numeral.scan_eq_ok_iff.mpr ⟨otherSpelled, stops otherNumeral⟩
  have same : numeral = otherNumeral := by
    rw [scanned] at otherScanned
    cases otherScanned
    rfl
  rw [same]
  exact ⟨rfl, rfl⟩

end Json

namespace Binary.Pattern

variable {format : Format} {pattern : Pattern format}

theorem spelledAt_write (layout : Layout) (finite : pattern.isFinite = true) :
    (Json.Numeral.laidOut layout pattern.negative
      (format.shortest layout.tie pattern.magnitude)).SpelledAt (pattern.write layout) [] := by
  have spelled := Json.Numeral.spelledAt_laidOut layout pattern.negative
    (format.shortest layout.tie pattern.magnitude) []
  rwa [List.append_nil, ← write_of_isFinite layout finite] at spelled

theorem standsFor_write (layout : Layout) (finite : pattern.isFinite = true) :
    Json.StandsFor (pattern.write layout) pattern.negative
      (format.shortest layout.tie pattern.magnitude).real :=
  ⟨_, spelledAt_write layout finite, Json.Numeral.laidOut_negative _ _ _,
    Json.Numeral.mantissa_laidOut _ _ _⟩

/-- How many significant digits the decimals have that round to a pattern. -/
def digitCounts (pattern : Pattern format) : Set Nat :=
  {count | ∃ (digitList : List Nat) (exponent : Int), AreDigits digitList ∧
    digitList.length = count ∧
    pattern.IsRounding pattern.negative (value digitList * 10 ^ exponent)}

/-- No decimal that rounds to a pattern has fewer significant digits than what is written
for it, whatever the layout.  A zero has none, so none can be spared. -/
theorem isLeast_significantDigits (layout : Layout) (hasFraction : 0 < format.fractionBits)
    {enough : Nat} (enoughDigits : format.Suffices enough) (finite : pattern.isFinite = true) :
    IsLeast pattern.digitCounts (significantDigits (pattern.write layout)) := by
  rw [(spelledAt_write layout finite).significantDigits_eq, Json.Numeral.stripZeros_laidOut]
  rcases Nat.eq_zero_or_pos pattern.magnitude with isZero | positive
  · have noDigits : stripZeros (format.shortest layout.tie pattern.magnitude).significant = [] := by
      rw [isZero]
      rfl
    rw [noDigits]
    refine ⟨⟨[], 0, areDigits_nil, rfl, ?_⟩, fun _ _ => Nat.zero_le _⟩
    rw [value_nil, Nat.cast_zero, zero_mul]
    apply isRounding_of_roundsTo hasFraction le_rfl finite
    rw [isZero]
    exact format.roundsTo_zero_zero
  · obtain ⟨nonzero, -, least⟩ :=
      Format.length_significant_shortest layout.tie positive enoughDigits
    have rounds := Format.roundsTo_shortest layout.tie pattern.magnitude enoughDigits
    rw [← Scientific.value_significant] at rounds
    rw [Scientific.stripZeros_significant nonzero]
    refine ⟨⟨_, _, Scientific.areDigits_significant _, rfl,
      isRounding_of_roundsTo hasFraction (by positivity) finite rounds⟩, ?_⟩
    rintro count ⟨digitList, exponent, areDigits, rfl, rounding⟩
    exact least digitList exponent areDigits
      (rounding.roundsTo hasFraction (by positivity) finite)

end Binary.Pattern

/-- A text that shows a coordinate: it has the sign of the coordinate, denotes a number
that rounds to it, and has so many significant digits. -/
structure Shows (text : String) (coordinate : Coordinate) (count : Nat) (number : ℚ) : Prop where
  standsFor : Json.StandsFor text.toList coordinate.negative number
  isRounding : coordinate.IsRounding coordinate.negative number
  digits : significantDigits text.toList = count

theorem shows_text (layout : Layout) {coordinate : Coordinate}
    (finite : coordinate.isFinite = true) {count : Nat}
    (isLeast : IsLeast coordinate.digitCounts count) :
    Shows (coordinate.text layout) coordinate count
      (Format.single.shortest layout.tie coordinate.magnitude).real := by
  have hasFraction : 0 < Format.single.fractionBits := by decide
  have textEq : (coordinate.text layout).toList = coordinate.write layout :=
    String.toList_ofList
  refine ⟨?_, ?_, ?_⟩
  · rw [textEq]
    exact Pattern.standsFor_write layout finite
  · apply Pattern.isRounding_of_roundsTo hasFraction ?_ finite
    · exact Format.roundsTo_shortest layout.tie coordinate.magnitude Format.suffices_single
    · unfold Scientific.real
      positivity
  · rw [textEq]
    exact (Pattern.isLeast_significantDigits layout hasFraction Format.suffices_single
      finite).unique isLeast

/-- All texts of a finite coordinate show it in as few digits as there can be, the plain
one and the one for debugging by the same decimal.  The one in JSON has another only if
the coordinate is half way between the two. -/
theorem texts_agree {coordinate : Coordinate} (finite : coordinate.isFinite = true) :
    ∃ count number jsonNumber, IsLeast coordinate.digitCounts count ∧
      Shows (coordinate.text .plain) coordinate count number ∧
      Shows (coordinate.text .debug) coordinate count number ∧
      Shows (Json.coordinateText coordinate) coordinate count jsonNumber ∧
      (jsonNumber = number ∨
        jsonNumber + number = 2 * Format.single.real coordinate.magnitude) := by
  have isLeast := Pattern.isLeast_significantDigits .plain (by decide) Format.suffices_single finite
  have json := shows_text .jsonSingle finite isLeast
  rw [← show Json.coordinateText coordinate = coordinate.text .jsonSingle from if_pos finite] at json
  exact ⟨_, _, _, isLeast, shows_text .plain finite isLeast, shows_text .debug finite isLeast, json,
    Format.shortest_tie Format.suffices_single .even .upper coordinate.magnitude⟩

/-- A coordinate half way between two shortest decimals, of which JSON takes the other
one. -/
theorem texts_agree_half_way :
    let coordinate : Coordinate := .round false 8388609 4
    coordinate.isFinite = true ∧
      coordinate.text .plain = "2097152.3" ∧ Json.coordinateText coordinate = "2097152.2" ∧
      ∃ count number jsonNumber, IsLeast coordinate.digitCounts count ∧
        Shows (coordinate.text .plain) coordinate count number ∧
        Shows (coordinate.text .debug) coordinate count number ∧
        Shows (Json.coordinateText coordinate) coordinate count jsonNumber ∧
        (jsonNumber = number ∨
          jsonNumber + number = 2 * Format.single.real coordinate.magnitude) := by
  intro coordinate
  have finite : coordinate.isFinite = true := by decide +kernel
  exact ⟨finite, by decide +kernel, by decide +kernel, texts_agree finite⟩

end PointRecords
