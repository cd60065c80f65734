import PointRecords.Proofs.Packed.Record

/-!
# Damaged lengths are noticed

A reader takes bytes off the front and never asks how many there are in all.  So what it
answers, it answers whatever follows, unless it has run out of bytes.  This carries over
from a byte to a column and to all columns of a list, and it is all that is needed: bytes
that are read to their end are too short as soon as some are missing, wherever they are
cut.  Only a huge length is refused before the columns are looked at.
-/

namespace PointRecords.Packed

variable {α β γ : Type}

/-- An answer to some bytes and the answer to the same bytes with more behind them. -/
inductive Continues (more : Bytes) :
    Except Fault (β × Bytes) → Except Fault (β × Bytes) → Prop
  | accepted (value : β) (rest : Bytes) :
      Continues more (.ok (value, rest)) (.ok (value, rest ++ more))
  | refused (fault : Fault) : Continues more (.error fault) (.error fault)
  | tooShort (longer : Except Fault (β × Bytes)) : Continues more (.error .tooShort) longer

/-- What follows the bytes that a reader has seen does not change its answer. -/
def IsSteady (read : Bytes → Except Fault (β × Bytes)) : Prop :=
  ∀ bytes more, Continues more (read bytes) (read (bytes ++ more))

theorem Continues.bind {more : Bytes} {first longer : Except Fault (β × Bytes)}
    {next : β × Bytes → Except Fault (γ × Bytes)} (continues : Continues more first longer)
    (goesOn : ∀ value rest, Continues more (next (value, rest)) (next (value, rest ++ more))) :
    Continues more (first >>= next) (longer >>= next) := by
  cases continues with
  | accepted value rest => exact goesOn value rest
  | refused fault => exact .refused fault
  | tooShort longer => exact .tooShort _

/-! ## Readers are steady -/

theorem isSteady_takeByte : IsSteady takeByte := by
  intro bytes more
  cases bytes with
  | nil => exact .tooShort _
  | cons byte bytes => exact .accepted byte bytes

theorem isSteady_takeBytes (count : Nat) : IsSteady (takeBytes count) := by
  intro bytes more
  by_cases enough : count ≤ bytes.length
  · obtain ⟨front, rest, rfl, frontLength⟩ : ∃ front rest,
        bytes = front ++ rest ∧ front.length = count :=
      ⟨_, _, (List.take_append_drop count bytes).symm, List.length_take_of_le enough⟩
    rw [← frontLength, List.append_assoc, takeBytes_append, takeBytes_append]
    exact .accepted front rest
  · rw [takeBytes, if_pos (Nat.lt_of_not_le enough)]
    exact .tooShort _

theorem isSteady_readByteColumn (count : Nat) : IsSteady (readByteColumn count) := by
  intro bytes more
  unfold readByteColumn
  by_cases short : count ≤ 2
  · rw [if_pos short, if_pos short]
    exact isSteady_takeBytes count bytes more
  · rw [if_neg short, if_neg short]
    refine (isSteady_takeByte bytes more).bind fun header afterHeader => ?_
    dsimp only
    cases Width.ofIndex? ((header.toNat + 1) / 2) with
    | none => exact .refused .invalidPacking
    | some width =>
        dsimp only
        by_cases odd : header.toNat % 2 = 1
        · rw [if_pos odd, if_pos odd]
          refine (isSteady_takeByte afterHeader more).bind fun low afterLow => ?_
          refine (isSteady_takeBytes _ afterLow more).bind fun packed rest => ?_
          exact .accepted _ _
        · rw [if_neg odd, if_neg odd]
          refine (isSteady_takeBytes _ afterHeader more).bind fun packed rest => ?_
          exact .accepted _ _

theorem isSteady_readFloatColumn (count : Nat) : IsSteady (readFloatColumn count) := by
  intro bytes more
  refine (isSteady_takeBytes _ bytes more).bind fun low afterLow => ?_
  refine (isSteady_takeBytes _ afterLow more).bind fun tops rest => ?_
  exact .accepted _ _

theorem isSteady_readLongLength : IsSteady readLongLength := by
  intro bytes more
  have guarded : ∀ length rest, Continues more
      (if hugeLength ≤ length then .error .hugeLength else .ok (length, rest))
      (if hugeLength ≤ length then .error .hugeLength else .ok (length, rest ++ more)) := by
    intro length rest
    split
    · exact .refused .hugeLength
    · exact .accepted length rest
  refine (isSteady_takeByte bytes more).bind fun header afterHeader => ?_
  dsimp only
  cases lengthBytes? header.toNat with
  | none => exact .refused .invalidPacking
  | some count =>
      dsimp only
      by_cases odd : header.toNat % 2 = 1
      · rw [if_pos odd, if_pos odd]
        refine (isSteady_takeBytes _ afterHeader more).bind fun low afterLow => ?_
        refine (isSteady_takeBytes _ afterLow more).bind fun high rest => ?_
        exact guarded _ rest
      · rw [if_neg odd, if_neg odd]
        refine (isSteady_takeBytes _ afterHeader more).bind fun high rest => ?_
        exact guarded _ rest

theorem isSteady_readLength : IsSteady readLength := by
  intro bytes more
  refine (isSteady_takeByte bytes more).bind fun first afterFirst => ?_
  dsimp only
  by_cases mark : first = 255
  · rw [if_pos mark, if_pos mark]
    exact isSteady_readLongLength afterFirst more
  · rw [if_neg mark, if_neg mark]
    exact .accepted _ _

def Column.IsSteady (column : Column α) : Prop := ∀ count, Packed.IsSteady (column.read count)

theorem Column.isSteady_channels : Column.channels.IsSteady :=
  isSteady_readByteColumn

theorem Column.isSteady_coordinates : Column.coordinates.IsSteady :=
  isSteady_readFloatColumn

section

variable {column : Column α}

theorem Column.IsSteady.readColumns (steady : column.IsSteady) (count : Nat) :
    Packed.IsSteady (readColumns column count) := by
  intro bytes more
  refine (steady count bytes more).bind fun firsts afterFirsts => ?_
  refine (steady count afterFirsts more).bind fun seconds afterSeconds => ?_
  refine (steady count afterSeconds more).bind fun thirds rest => ?_
  exact .accepted _ rest

/-- The records of a list, with whatever follows it. -/
def readList (column : Column α) (bytes : Bytes) : Except Fault (List (Triple α) × Bytes) :=
  readLength bytes >>= fun found => readColumns column found.1 found.2

theorem decodeList_eq (bytes : Bytes) :
    decodeList column bytes = readList column bytes >>= finished := by
  rw [readList, decodeList]
  cases readLength bytes with
  | error fault => rfl
  | ok found => rfl

theorem Column.IsSteady.readList (steady : column.IsSteady) :
    Packed.IsSteady (readList column) := by
  intro bytes more
  refine (isSteady_readLength bytes more).bind fun length afterLength => ?_
  exact steady.readColumns length afterLength more

theorem readList_encodeList (faithful : column.IsFaithful) {records : List (Triple α)}
    (notHuge : records.length < hugeLength) (rest : Bytes) :
    readList column (encodeList column records ++ rest) = .ok (records, rest) := by
  rw [readList, encodeList, List.append_assoc,
    readLength_writeLength (lt_of_lt_hugeLength notHuge), if_neg (Nat.not_le.mpr notHuge)]
  exact readColumns_writeColumns faithful records rest

end

/-! ## Cut off and extended -/

/-- Bytes that are read to their end are too short if some are missing. -/
theorem IsSteady.tooShort {read : Bytes → Except Fault (β × Bytes)} (steady : IsSteady read)
    {front back : Bytes} {value : β} (whole : read (front ++ back) = .ok (value, []))
    (missing : back ≠ []) : read front = .error .tooShort := by
  have continues := steady front back
  rw [whole] at continues
  generalize read front = answer at continues ⊢
  generalize longerEq : Except.ok (value, []) = longer at continues
  cases continues with
  | accepted found rest =>
      simp only [Except.ok.injEq, Prod.mk.injEq, List.nil_eq, List.append_eq_nil_iff] at longerEq
      exact absurd longerEq.2.2 missing
  | refused fault => cases longerEq
  | tooShort longer => rfl

def FailsWith (message : String) (answer : Except Fault β) : Prop :=
  ∃ fault, answer = .error fault ∧ fault.message = message

/-- Bytes are noticed to be cut off, wherever that is, and to be followed by others. -/
structure NoticesDamage (decode : Bytes → Except Fault β) (bytes : Bytes) : Prop where
  cutOff : ∀ front, front <+: bytes → front ≠ bytes → FailsWith "EOF" (decode front)
  extended : ∀ more, more ≠ [] → FailsWith "Expected EOF" (decode (bytes ++ more))

theorem noticesDamage_of_isSteady {read : Bytes → Except Fault (List (Triple α) × Bytes)}
    {decode : Bytes → Except Fault β} {bytes : Bytes} {records : List (Triple α)}
    (steady : IsSteady read) (whole : ∀ rest, read (bytes ++ rest) = .ok (records, rest))
    (passesOn : ∀ bytes fault, read bytes >>= finished = .error fault →
      decode bytes = .error fault) : NoticesDamage decode bytes where
  cutOff := by
    rintro front ⟨back, rfl⟩ proper
    have missing : back ≠ [] := by
      rintro rfl
      exact proper (List.append_nil front).symm
    have readWhole := whole []
    rw [List.append_nil] at readWhole
    refine ⟨.tooShort, passesOn front .tooShort ?_, rfl⟩
    rw [steady.tooShort readWhole missing]
    rfl
  extended := by
    intro more nonempty
    refine ⟨.tooLong, passesOn _ .tooLong ?_, rfl⟩
    rw [whole more]
    exact if_neg (by simpa using nonempty)

section

variable {record : Type} {column : Column α} {ofTriple : Triple α → record}
  {toTriple : record → Triple α}

theorem noticesDamage_one (faithful : column.IsFaithful) (steady : column.IsSteady)
    (made : record) :
    NoticesDamage (fun bytes => (decodeOne column bytes).map ofTriple)
      (encodeOne column (toTriple made)) := by
  refine noticesDamage_of_isSteady (steady.readColumns 1)
    (readColumns_writeColumns faithful [toTriple made]) fun bytes fault failed => ?_
  rw [decodeOne, failed]
  rfl

theorem noticesDamage_list (faithful : column.IsFaithful) (steady : column.IsSteady)
    {records : List record} (notHuge : records.length < hugeLength) :
    NoticesDamage (fun bytes => (decodeList column bytes).map (List.map ofTriple))
      (encodeList column (records.map toTriple)) := by
  rw [← List.length_map toTriple] at notHuge
  refine noticesDamage_of_isSteady steady.readList (readList_encodeList faithful notHuge)
    fun bytes fault failed => ?_
  rw [decodeList_eq, failed]
  rfl

/-! ## Huge lengths -/

theorem writeLength_of_huge {length : Nat} (huge : hugeLength ≤ length) :
    writeLength length = 255 :: 0 :: toDigits 256 8 length := by
  have great : 0x100000000 ≤ length := (show 0x100000000 ≤ hugeLength by decide).trans huge
  rw [writeLength, if_neg (by omega), if_neg (by omega), if_neg (by omega), if_neg (by omega)]

theorem length_writeLength_of_huge {length : Nat} (huge : hugeLength ≤ length) :
    (writeLength length).length = 10 := by
  rw [writeLength_of_huge huge, List.length_cons, List.length_cons, toDigits_length]

/-- A huge length is not recognised before its last byte. -/
theorem readLength_of_cut {length : Nat} (huge : hugeLength ≤ length) {front : Bytes}
    (isFront : front <+: writeLength length) (short : front.length < 10) :
    readLength front = .error .tooShort := by
  rw [writeLength_of_huge huge] at isFront
  cases front with
  | nil => rfl
  | cons first rest =>
      obtain ⟨rfl, afterMark⟩ := List.cons_prefix_cons.mp isFront
      cases rest with
      | nil => rfl
      | cons second rest =>
          obtain ⟨rfl, -⟩ := List.cons_prefix_cons.mp afterMark
          have few : rest.length < 8 := by
            simp only [List.length_cons] at short
            omega
          have taken : takeBytes 8 rest = .error .tooShort := if_pos few
          change (takeBytes 8 rest >>= _) = _
          rw [taken]
          rfl

/-- Of the bytes of a huge list the length decides alone. -/
theorem failsWith_of_huge {records : List record} (huge : hugeLength ≤ records.length)
    (fits : records.length < 2 ^ 64) {bytes : Bytes}
    (damaged : bytes <+: encodeList column (records.map toTriple) ∨
      encodeList column (records.map toTriple) <+: bytes) :
    FailsWith (if bytes.length < 10 then "EOF" else "huge length")
      ((decodeList column bytes).map (List.map ofTriple)) := by
  have lengthEq : (records.map toTriple).length = records.length := List.length_map _
  have tenBytes := length_writeLength_of_huge huge
  have isFront : writeLength records.length <+: encodeList column (records.map toTriple) := by
    rw [encodeList, lengthEq]
    exact List.prefix_append _ _
  have comparable : bytes <+: writeLength records.length ∨ writeLength records.length <+: bytes := by
    rcases damaged with cutOff | extended
    · exact List.prefix_or_prefix_of_prefix cutOff isFront
    · exact Or.inr (isFront.trans extended)
  split
  · rename_i short
    have cut : bytes <+: writeLength records.length := by
      rcases comparable with cut | whole
      · exact cut
      · have := whole.length_le
        omega
    refine ⟨.tooShort, ?_, rfl⟩
    rw [decodeList_eq, readList, readLength_of_cut huge cut short]
    rfl
  · rename_i long
    have whole : writeLength records.length <+: bytes := by
      rcases comparable with cut | whole
      · have := cut.length_le
        exact (cut.eq_of_length (by omega)) ▸ List.prefix_refl _
      · exact whole
    obtain ⟨rest, rfl⟩ := whole
    refine ⟨.hugeLength, ?_, rfl⟩
    rw [decodeList_eq, readList, readLength_writeLength fits, if_pos huge]
    rfl

end

/-! ## Colours and points -/

/-- What decoding makes of damaged bytes, for one kind of record: if bytes are missing or
follow, that is what it reports, unless it refuses the length of a huge list. -/
structure DamageIsNoticed {record : Type} (column : Column α) (ofTriple : Triple α → record)
    (toTriple : record → Triple α) : Prop where
  one : ∀ made, NoticesDamage (fun bytes => (decodeOne column bytes).map ofTriple)
    (encodeOne column (toTriple made))
  list : ∀ records : List record, records.length < hugeLength →
    NoticesDamage (fun bytes => (decodeList column bytes).map (List.map ofTriple))
      (encodeList column (records.map toTriple))
  huge : ∀ records : List record, hugeLength ≤ records.length → records.length < 2 ^ 64 →
    ∀ bytes, (bytes <+: encodeList column (records.map toTriple) ∨
        encodeList column (records.map toTriple) <+: bytes) →
      FailsWith (if bytes.length < 10 then "EOF" else "huge length")
        ((decodeList column bytes).map (List.map ofTriple))

theorem damageIsNoticed_of_isSteady {record : Type} {column : Column α} (ofTriple : Triple α → record)
    (toTriple : record → Triple α) (faithful : column.IsFaithful) (steady : column.IsSteady) :
    DamageIsNoticed column ofTriple toTriple where
  one := noticesDamage_one faithful steady
  list := fun _ => noticesDamage_list faithful steady
  huge := fun _ huge fits _ => failsWith_of_huge huge fits

/-- Wherever the bytes of colours or points are cut off, and whatever is put behind them,
decoding fails. -/
theorem damaged_lengths_noticed :
    DamageIsNoticed .channels Colour.ofTriple Colour.toTriple ∧
      DamageIsNoticed .coordinates Point.ofTriple Point.toTriple :=
  ⟨damageIsNoticed_of_isSteady _ _ Column.isFaithful_channels Column.isSteady_channels,
    damageIsNoticed_of_isSteady _ _ Column.isFaithful_coordinates Column.isSteady_coordinates⟩

theorem damaged_lengths_noticed_six_colours :
    sixColours.length < hugeLength ∧
      NoticesDamage (fun bytes => (decodeList .channels bytes).map (List.map Colour.ofTriple))
        (encodeList .channels (sixColours.map Colour.toTriple)) := by
  have short : sixColours.length < hugeLength := by decide
  exact ⟨short, damaged_lengths_noticed.1.list sixColours short⟩

/-- A huge list of colours of which nothing is left but the length. -/
theorem cutOff_behind_huge_length {colours : List (Triple UInt8)}
    (huge : hugeLength ≤ colours.length) (fits : colours.length < 2 ^ 64) :
    writeLength colours.length <+: encodeList .channels colours ∧
      writeLength colours.length ≠ encodeList .channels colours ∧
      decodeList .channels (writeLength colours.length) = .error .hugeLength := by
  refine ⟨List.prefix_append _ _, fun equal => ?_, ?_⟩
  · have noColumns := List.self_eq_append_right.mp equal
    have read := readColumns_writeColumns Column.isFaithful_channels colours []
    have long : ¬ colours.length ≤ 2 :=
      Nat.not_le.mpr ((show 2 < hugeLength by decide).trans_le huge)
    have noColumn : Column.channels.read colours.length [] = .error .tooShort := by
      change readByteColumn colours.length [] = _
      rw [readByteColumn, if_neg long]
      rfl
    rw [noColumns, List.append_nil, readColumns, noColumn] at read
    cases read
  · have readLengthAlone := readLength_writeLength fits []
    rw [List.append_nil, if_pos huge] at readLengthAlone
    rw [decodeList_eq, readList, readLengthAlone]
    rfl

/-- A list that is cut off, and what is reported is not that bytes are missing. -/
theorem shortest_huge_colours_cut_off :
    let bytes := encodeList .channels
      ((List.replicate 2251799813685247 Colour.black).map Colour.toTriple)
    let front : Bytes := [255, 0, 255, 255, 255, 255, 255, 255, 7, 0]
    front <+: bytes ∧ front ≠ bytes ∧ FailsWith "huge length" (decodeList .channels front) ∧
      ¬ FailsWith "EOF" (decodeList .channels front) := by
  intro bytes front
  obtain ⟨huge, fits⟩ := length_shortest_huge Colour.black
  rw [← List.length_map Colour.toTriple] at huge fits
  obtain ⟨isFront, proper, refused⟩ := cutOff_behind_huge_length huge fits
  have written : writeLength ((List.replicate 2251799813685247 Colour.black).map
      Colour.toTriple).length = front := by
    rw [List.length_map, List.length_replicate]
    decide
  rw [written] at isFront proper refused
  refine ⟨isFront, proper, ⟨.hugeLength, refused, rfl⟩, ?_⟩
  rintro ⟨fault, answer, message⟩
  rw [refused] at answer
  cases answer
  exact absurd message (by decide)

end PointRecords.Packed
