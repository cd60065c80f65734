import PointRecords.Packed.FloatColumn
import PointRecords.Proofs.Chain
import PointRecords.Proofs.Packed.Bytes

/-!
# Columns of coordinates are read back

The three low bytes and the top byte of a coordinate are the four digits of its word
in base 256.  So a column of words and its bytes determine one another: what was
written is read, and nothing else is.
-/

namespace PointRecords

/-- A word with no more bits than a pattern is kept by it. -/
theorem Binary.Pattern.bits_ofBits {format : Format} {word : Nat}
    (fits : word < 2 * format.magnitudes) : (ofBits word : Pattern format).bits = word := by
  have positive := format.magnitudes_pos
  have sign : word / format.magnitudes < 2 := (Nat.div_lt_iff_lt_mul positive).mpr fits
  have split := Nat.div_add_mod word format.magnitudes
  simp only [bits, ofBits, decide_eq_true_eq]
  interval_cases sign : word / format.magnitudes
  · simpa using split
  · simpa using split

namespace Packed

theorem magnitudes_single : 2 * Binary.Format.single.magnitudes = 256 ^ 4 := by
  decide

theorem lowBytes_append_topByte (coordinate : Coordinate) :
    lowBytes coordinate ++ [topByte coordinate] = toDigits 256 4 coordinate.bits := by
  simp only [lowBytes, topByte, toDigits, List.cons_append, List.nil_append, Nat.div_div_eq_div_mul,
    List.cons.injEq, and_true, true_and]
  rw [← UInt8.toNat_inj, UInt8.toNat_ofNat', UInt8.toNat_ofNat', Nat.mod_mod]

/-- A coordinate is found again in its four bytes. -/
theorem ofDigits_bytes (coordinate : Coordinate) :
    (.ofBits (ofDigits 256 (lowBytes coordinate ++ [topByte coordinate])) : Coordinate) =
      coordinate := by
  have fits : coordinate.bits < Nat.pow 256 4 := coordinate.bits_lt.trans_eq magnitudes_single
  rw [lowBytes_append_topByte, ofDigits_toDigits (Nat.le_refl 256) fits,
    Binary.Pattern.ofBits_bits]

/-- Four bytes are found again in the coordinate that they make. -/
theorem bytes_ofDigits (low : Bytes) (top : UInt8) (three : low.length = 3) :
    lowBytes (.ofBits (ofDigits 256 (low ++ [top]))) = low ∧
      topByte (.ofBits (ofDigits 256 (low ++ [top]))) = top := by
  have below : DigitsBelow 256 (low ++ [top]) := fun digit _ => digit.toNat_lt
  have four : (low ++ [top]).length = 4 := by simp [three]
  have fits : ofDigits 256 (low ++ [top]) < 2 * Binary.Format.single.magnitudes := by
    rw [magnitudes_single, ← four]
    exact ofDigits_lt below
  have digits := toDigits_ofDigits below
  rw [four, ← Binary.Pattern.bits_ofBits fits, ← lowBytes_append_topByte] at digits
  obtain ⟨lowEq, topEq⟩ := List.append_inj' digits rfl
  exact ⟨lowEq, List.singleton_inj.mp topEq⟩

theorem joinParts_cons (low tops : Bytes) (top : UInt8) {first : Bytes} (three : first.length = 3) :
    joinParts (first ++ low) (top :: tops) =
      .ofBits (ofDigits 256 (first ++ [top])) :: joinParts low tops := by
  obtain ⟨one, two, three, rfl⟩ := List.length_eq_three.mp three
  rfl

@[simp]
theorem length_lowBytes (coordinate : Coordinate) : (lowBytes coordinate).length = 3 :=
  toDigits_length 256 3 _

theorem joinParts_split (column : List Coordinate) :
    joinParts (column.flatMap lowBytes) (column.map topByte) = column := by
  induction column with
  | nil => rfl
  | cons coordinate rest ih =>
      rw [List.flatMap_cons, List.map_cons, joinParts_cons _ _ _ (length_lowBytes coordinate),
        ofDigits_bytes, ih]

theorem split_joinParts {low tops : Bytes} (enough : low.length = 3 * tops.length) :
    (joinParts low tops).flatMap lowBytes = low ∧ (joinParts low tops).map topByte = tops := by
  induction tops generalizing low with
  | nil =>
      obtain rfl : low = [] := List.eq_nil_of_length_eq_zero enough
      exact ⟨rfl, rfl⟩
  | cons top tops ih =>
      rw [List.length_cons] at enough
      have three : (low.take 3).length = 3 := List.length_take_of_le (by omega)
      have restEnough : (low.drop 3).length = 3 * tops.length := by
        rw [List.length_drop]
        omega
      obtain ⟨lowRest, topRest⟩ := ih restEnough
      obtain ⟨lowFirst, topFirst⟩ := bytes_ofDigits (low.take 3) top three
      have joined := joinParts_cons (low.drop 3) tops top three
      rw [List.take_append_drop] at joined
      rw [joined, List.flatMap_cons, List.map_cons, lowFirst, topFirst, lowRest, topRest,
        List.take_append_drop]
      exact ⟨rfl, rfl⟩

theorem length_flatMap_lowBytes (column : List Coordinate) :
    (column.flatMap lowBytes).length = 3 * column.length := by
  induction column with
  | nil => rfl
  | cons coordinate rest ih =>
      rw [List.flatMap_cons, List.length_append, ih, length_lowBytes, List.length_cons]
      omega

/-- A column of coordinates is read exactly where it was written. -/
theorem readFloatColumn_eq_ok_iff {count : Nat} {bytes rest : Bytes} {column : List Coordinate} :
    readFloatColumn count bytes = .ok (column, rest) ↔
      column.length = count ∧ bytes = writeFloatColumn column ++ rest := by
  simp only [readFloatColumn, bind_eq_ok_iff, Prod.exists, takeBytes_eq_ok_iff, pure, Except.pure,
    Except.ok.injEq, Prod.mk.injEq]
  constructor
  · rintro ⟨low, _, ⟨lowLength, rfl⟩, tops, _, ⟨rfl, rfl⟩, rfl, rfl⟩
    obtain ⟨lowEq, topsEq⟩ := split_joinParts lowLength
    have length := congrArg List.length topsEq
    rw [List.length_map] at length
    refine ⟨length, ?_⟩
    rw [writeFloatColumn, lowEq, topsEq, List.append_assoc]
  · rintro ⟨rfl, rfl⟩
    refine ⟨column.flatMap lowBytes, column.map topByte ++ rest, ⟨length_flatMap_lowBytes column, ?_⟩,
      column.map topByte, rest, ⟨List.length_map _, rfl⟩, joinParts_split column, rfl⟩
    rw [writeFloatColumn, List.append_assoc]

end Packed

end PointRecords
