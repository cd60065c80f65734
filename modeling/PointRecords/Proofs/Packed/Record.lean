import PointRecords.Packed.Record
import PointRecords.Proofs.Packed.ByteColumn
import PointRecords.Proofs.Packed.FloatColumn
import PointRecords.Proofs.Packed.Length

/-!
# Packed records are unpacked

What a column writes it reads again, so the same holds of three columns, of a single
record, and of a list whose length the reader does not refuse.  A huge length is
written but not read: this is the only way in which a list can be lost.  A column of
coordinates is moreover read only where it was written, so that the bytes of a single
point are the only ones that stand for it.
-/

namespace PointRecords

namespace Packed

variable {α : Type} {column : Column α}

namespace Column

/-- What is written for a column is read, whatever follows it. -/
def IsFaithful (column : Column α) : Prop :=
  ∀ values rest, column.read values.length (column.write values ++ rest) = .ok (values, rest)

/-- A column is read only where it was written. -/
def IsCanonical (column : Column α) : Prop :=
  ∀ count bytes values rest, column.read count bytes = .ok (values, rest) →
    values.length = count ∧ bytes = column.write values ++ rest

theorem isFaithful_channels : Column.channels.IsFaithful :=
  readByteColumn_writeByteColumn

theorem isFaithful_coordinates : Column.coordinates.IsFaithful :=
  fun _ _ => readFloatColumn_eq_ok_iff.mpr ⟨rfl, rfl⟩

theorem isCanonical_coordinates : Column.coordinates.IsCanonical :=
  fun _ _ _ _ => readFloatColumn_eq_ok_iff.mp

end Column

/-! ## Three columns -/

theorem joinColumns_split (records : List (Triple α)) :
    joinColumns (records.map Triple.first) (records.map Triple.second)
      (records.map Triple.third) = records := by
  induction records with
  | nil => rfl
  | cons record records ih =>
      rw [joinColumns] at ih ⊢
      simp only [List.map_cons, List.zip_cons_cons, ih]

theorem readColumns_writeColumns (faithful : column.IsFaithful) (records : List (Triple α))
    (rest : Bytes) :
    readColumns column records.length (writeColumns column records ++ rest) =
      .ok (records, rest) := by
  have read : ∀ (field : Triple α → α) (after : Bytes),
      column.read records.length (column.write (records.map field) ++ after) =
        .ok (records.map field, after) := by
    intro field after
    have fieldRead := faithful (records.map field) after
    rwa [List.length_map] at fieldRead
  simp only [readColumns, writeColumns, List.append_assoc, read, bind, Except.bind,
    joinColumns_split, pure, Except.pure]

/-- Three columns of one value each are read only where a record was written. -/
theorem exists_of_readColumns_one (canonical : column.IsCanonical) {bytes rest : Bytes}
    {records : List (Triple α)} (read : readColumns column 1 bytes = .ok (records, rest)) :
    ∃ record, records = [record] ∧ bytes = writeColumns column [record] ++ rest := by
  simp only [readColumns, bind_eq_ok_iff, Prod.exists, pure, Except.pure, Except.ok.injEq,
    Prod.mk.injEq] at read
  obtain ⟨firsts, _, readFirsts, seconds, _, readSeconds, thirds, _, readThirds, rfl, rfl⟩ := read
  obtain ⟨oneFirst, rfl⟩ := canonical _ _ _ _ readFirsts
  obtain ⟨oneSecond, rfl⟩ := canonical _ _ _ _ readSeconds
  obtain ⟨oneThird, rfl⟩ := canonical _ _ _ _ readThirds
  obtain ⟨first, rfl⟩ := List.length_eq_one_iff.mp oneFirst
  obtain ⟨second, rfl⟩ := List.length_eq_one_iff.mp oneSecond
  obtain ⟨third, rfl⟩ := List.length_eq_one_iff.mp oneThird
  refine ⟨⟨first, second, third⟩, rfl, ?_⟩
  simp only [writeColumns, List.map_cons, List.map_nil, List.append_assoc]

/-! ## One record and lists of records -/

theorem decodeOne_encodeOne (faithful : column.IsFaithful) (record : Triple α) :
    decodeOne column (encodeOne column record) = .ok record := by
  have read := readColumns_writeColumns faithful [record] []
  rw [List.append_nil, List.length_singleton] at read
  rw [decodeOne, encodeOne, read]
  rfl

/-- A single record of canonical columns is decoded from its own bytes and from no
others. -/
theorem decodeOne_eq_ok_iff (faithful : column.IsFaithful) (canonical : column.IsCanonical)
    {bytes : Bytes} {record : Triple α} :
    decodeOne column bytes = .ok record ↔ bytes = encodeOne column record := by
  constructor
  · intro decoded
    simp only [decodeOne, bind_eq_ok_iff, Prod.exists] at decoded
    obtain ⟨records, ⟨_, rest, read, isFinished⟩, isSingle⟩ := decoded
    obtain ⟨found, rfl, rfl⟩ := exists_of_readColumns_one canonical read
    cases rest with
    | nil =>
        cases isFinished
        cases isSingle
        rw [List.append_nil, encodeOne]
    | cons byte rest => cases isFinished
  · rintro rfl
    exact decodeOne_encodeOne faithful record

/-- A list is decoded from its bytes, or refused because it is huge. -/
theorem decodeList_encodeList (faithful : column.IsFaithful) {records : List (Triple α)}
    (fits : records.length < 2 ^ 64) :
    decodeList column (encodeList column records) =
      if hugeLength ≤ records.length then .error .hugeLength else .ok records := by
  have read := readColumns_writeColumns faithful records []
  rw [List.append_nil] at read
  rw [decodeList, encodeList, readLength_writeLength fits]
  split
  · rfl
  · change readColumns column records.length (writeColumns column records) >>= finished = _
    rw [read]
    rfl

theorem lt_of_lt_hugeLength {length : Nat} (notHuge : length < hugeLength) : length < 2 ^ 64 :=
  notHuge.trans (by decide)

/-- A list of records that are three values each is decoded unless it is huge. -/
theorem decodeList_encodeList_map {record : Type} {ofTriple : Triple α → record}
    {toTriple : record → Triple α} (inverse : ∀ made, ofTriple (toTriple made) = made)
    (faithful : column.IsFaithful) {records : List record} (notHuge : records.length < hugeLength) :
    (decodeList column (encodeList column (records.map toTriple))).map (List.map ofTriple) =
      .ok records := by
  have length : (records.map toTriple).length = records.length := List.length_map _
  rw [decodeList_encodeList faithful (length ▸ lt_of_lt_hugeLength notHuge), length,
    if_neg (Nat.not_le.mpr notHuge), Except.map, List.map_map]
  simp [Function.comp_def, inverse]

theorem decodeList_encodeList_of_huge {record : Type} (toTriple : record → Triple α)
    (faithful : column.IsFaithful) {records : List record} (huge : hugeLength ≤ records.length)
    (fits : records.length < 2 ^ 64) :
    decodeList column (encodeList column (records.map toTriple)) = .error .hugeLength := by
  have length : (records.map toTriple).length = records.length := List.length_map _
  rw [decodeList_encodeList faithful (length ▸ fits), length, if_pos huge]

theorem length_shortest_huge {record : Type} (made : record) :
    hugeLength ≤ (List.replicate 2251799813685247 made).length ∧
      (List.replicate 2251799813685247 made).length < 2 ^ 64 := by
  rw [List.length_replicate]
  decide

/-- What holds of all lists of huge length holds of the shortest of them. -/
theorem of_shortest_huge {record : Type} {holds : List record → Prop}
    (ofHuge : ∀ records : List record, hugeLength ≤ records.length → records.length < 2 ^ 64 →
      holds records) (made : record) :
    hugeLength ≤ (List.replicate 2251799813685247 made).length ∧
      (List.replicate 2251799813685247 made).length < 2 ^ 64 ∧
      holds (List.replicate 2251799813685247 made) := by
  obtain ⟨huge, fits⟩ := length_shortest_huge made
  exact ⟨huge, fits, ofHuge _ huge fits⟩

/-- The shortest list of huge length is written but not read. -/
theorem decodeList_shortest_huge {record : Type} (ofTriple : Triple α → record)
    (toTriple : record → Triple α) (faithful : column.IsFaithful) (made : record) :
    decodeList column (encodeList column
        ((List.replicate 2251799813685247 made).map toTriple)) = .error .hugeLength ∧
      (decodeList column (encodeList column
        ((List.replicate 2251799813685247 made).map toTriple))).map (List.map ofTriple) ≠
          .ok (List.replicate 2251799813685247 made) := by
  obtain ⟨huge, fits⟩ := length_shortest_huge made
  have refused := decodeList_encodeList_of_huge toTriple faithful huge fits
  refine ⟨refused, ?_⟩
  rw [refused]
  simp only [Except.map, ne_eq, reduceCtorEq, not_false_eq_true]

/-! ## Colours -/

/-- Every list of colours of less than a huge length is decoded from its bytes, and so
is every single colour; of the others, those whose length is a 64-bit number are
refused. -/
theorem decode_encode_colours :
    (∀ colours : List Colour, colours.length < hugeLength →
      (decodeList .channels (encodeList .channels (colours.map Colour.toTriple))).map
        (List.map Colour.ofTriple) = .ok colours) ∧
    (∀ colours : List Colour, hugeLength ≤ colours.length → colours.length < 2 ^ 64 →
      decodeList .channels (encodeList .channels (colours.map Colour.toTriple)) =
        .error .hugeLength) ∧
    ∀ colour : Colour,
      (decodeOne .channels (encodeOne .channels colour.toTriple)).map Colour.ofTriple =
        .ok colour := by
  have inverse : ∀ colour : Colour, Colour.ofTriple colour.toTriple = colour := fun _ => rfl
  have faithful := Column.isFaithful_channels
  refine ⟨fun colours notHuge => decodeList_encodeList_map inverse faithful notHuge,
    fun colours huge fits => decodeList_encodeList_of_huge Colour.toTriple faithful huge fits,
    fun colour => ?_⟩
  rw [decodeOne_encodeOne faithful]
  rfl

/-- Six colours: the reds differ by one, the greens need whole bytes, the blues are all
zero. -/
def sixColours : List Colour :=
  [⟨200, 0, 0⟩, ⟨201, 17, 0⟩, ⟨200, 255, 0⟩, ⟨201, 16, 0⟩, ⟨201, 1, 0⟩, ⟨200, 128, 0⟩]

theorem decode_encode_six_colours :
    sixColours.length < hugeLength ∧
      (decodeList .channels (encodeList .channels (sixColours.map Colour.toTriple))).map
        (List.map Colour.ofTriple) = .ok sixColours ∧
      (hugeLength ≤ (List.replicate 2251799813685247 Colour.black).length ∧
        (List.replicate 2251799813685247 Colour.black).length < 2 ^ 64 ∧
        decodeList .channels
          (encodeList .channels ((List.replicate 2251799813685247 Colour.black).map
            Colour.toTriple)) = .error .hugeLength) := by
  obtain ⟨ofNotHuge, ofHuge, -⟩ := decode_encode_colours
  have short : sixColours.length < hugeLength := by decide
  exact ⟨short, ofNotHuge sixColours short, of_shortest_huge ofHuge Colour.black⟩

/-- A list that is written but not read: the shortest of huge length. -/
theorem decodeList_shortest_huge_colours :
    decodeList .channels
        (encodeList .channels ((List.replicate 2251799813685247 Colour.black).map
          Colour.toTriple)) = .error .hugeLength ∧
      (decodeList .channels
        (encodeList .channels ((List.replicate 2251799813685247 Colour.black).map
          Colour.toTriple))).map (List.map Colour.ofTriple) ≠
            .ok (List.replicate 2251799813685247 Colour.black) :=
  decodeList_shortest_huge Colour.ofTriple Colour.toTriple Column.isFaithful_channels Colour.black

/-! ## Points -/

/-- Every list of points of less than a huge length is decoded from its bytes, bit by
bit; of the others, those whose length is a 64-bit number are refused.  A single point
is decoded from its own bytes and from no others. -/
theorem decode_encode_points :
    (∀ points : List Point, points.length < hugeLength →
      (decodeList .coordinates (encodeList .coordinates (points.map Point.toTriple))).map
        (List.map Point.ofTriple) = .ok points) ∧
    (∀ points : List Point, hugeLength ≤ points.length → points.length < 2 ^ 64 →
      decodeList .coordinates (encodeList .coordinates (points.map Point.toTriple)) =
        .error .hugeLength) ∧
    ∀ (point : Point) (bytes : Bytes),
      (decodeOne .coordinates bytes).map Point.ofTriple = .ok point ↔
        bytes = encodeOne .coordinates point.toTriple := by
  have inverse : ∀ point : Point, Point.ofTriple point.toTriple = point := fun _ => rfl
  have faithful := Column.isFaithful_coordinates
  refine ⟨fun points notHuge => decodeList_encodeList_map inverse faithful notHuge,
    fun points huge fits => decodeList_encodeList_of_huge Point.toTriple faithful huge fits,
    fun point bytes => ?_⟩
  rw [← decodeOne_eq_ok_iff faithful Column.isCanonical_coordinates, map_eq_ok_iff]
  constructor
  · rintro ⟨record, decoded, rfl⟩
    exact decoded
  · exact fun decoded => ⟨point.toTriple, decoded, rfl⟩

/-- Points with both zeros, both infinities, and payloads of what is not a number. -/
def oddPoints : List Point :=
  [⟨.ofBits 0x80000000, .zero, .ofBits 0x00000001⟩,
    ⟨.infinite true, .infinite false, .ofBits 0xFF800001⟩,
    ⟨.ofBits 0xFFFFFFFF, .notANumber false, .ofBits 0x7FA55AA5⟩]

theorem decode_encode_odd_points :
    oddPoints.length < hugeLength ∧
      (decodeList .coordinates (encodeList .coordinates (oddPoints.map Point.toTriple))).map
        (List.map Point.ofTriple) = .ok oddPoints ∧
      (hugeLength ≤ (List.replicate 2251799813685247 Point.origin).length ∧
        (List.replicate 2251799813685247 Point.origin).length < 2 ^ 64 ∧
        decodeList .coordinates
          (encodeList .coordinates ((List.replicate 2251799813685247 Point.origin).map
            Point.toTriple)) = .error .hugeLength) := by
  obtain ⟨ofNotHuge, ofHuge, -⟩ := decode_encode_points
  have short : oddPoints.length < hugeLength := by decide
  exact ⟨short, ofNotHuge oddPoints short, of_shortest_huge ofHuge Point.origin⟩

/-- A list that is written but not read: the shortest of huge length. -/
theorem decodeList_shortest_huge_points :
    decodeList .coordinates
        (encodeList .coordinates ((List.replicate 2251799813685247 Point.origin).map
          Point.toTriple)) = .error .hugeLength ∧
      (decodeList .coordinates
        (encodeList .coordinates ((List.replicate 2251799813685247 Point.origin).map
          Point.toTriple))).map (List.map Point.ofTriple) ≠
            .ok (List.replicate 2251799813685247 Point.origin) :=
  decodeList_shortest_huge Point.ofTriple Point.toTriple Column.isFaithful_coordinates Point.origin

end Packed

end PointRecords
