import PointRecords.Packed.ByteColumn
import PointRecords.Proofs.Packed.Bytes

/-!
# Columns of bytes are read back

The digits of a column are found again in the bytes they share, because the values
of a full group of digits fit into one byte and a short group is followed by zeros
that are cut off.  The width picked for the greatest digit holds all of them, with
or without the least one subtracted.
-/

namespace PointRecords.Packed

namespace Width

theorem base_pow_perByte_le (width : Width) : width.base ^ width.perByte ≤ 256 := by
  cases width <;> decide

theorem base_pos (width : Width) : 0 < width.base := by
  cases width <;> decide

theorem index_le (width : Width) : width.index ≤ 5 := by
  cases width <;> decide

theorem ofIndex?_index (width : Width) : ofIndex? width.index = some width := by
  cases width <;> rfl

/-- Digits up to the maximum lie below the base of the width picked for it. -/
theorem lt_base_ofMaximum {digit maximum : Nat} (le : digit ≤ maximum) (bytewise : digit < 256) :
    digit < (ofMaximum maximum).base := by
  unfold ofMaximum
  split_ifs <;> simp only [base] <;> omega

end Width

/-- The digits of a group are found again in their byte, followed by zeros. -/
theorem toDigits_group {width : Width} {group : Bytes} (below : DigitsBelow width.base group)
    (short : group.length ≤ width.perByte) :
    toDigits width.base width.perByte (UInt8.ofNat (ofDigits width.base group)).toNat =
      group ++ List.replicate (width.perByte - group.length) 0 := by
  have bytewise : ofDigits width.base group < 256 :=
    calc
      ofDigits width.base group < width.base ^ group.length := ofDigits_lt below
      _ ≤ width.base ^ width.perByte := Nat.pow_le_pow_right width.base_pos short
      _ ≤ 256 := width.base_pow_perByte_le
  have padded := toDigits_ofDigits_add below (width.perByte - group.length)
  rw [Nat.add_sub_cancel' short] at padded
  rw [UInt8.toNat_ofNat_of_lt' bytewise, padded]

theorem length_pack (width : Width) (digits : Bytes) :
    (pack width digits).length = packedLength width digits.length := by
  fun_induction pack width digits with
  | case1 => cases width <;> rfl
  | case2 first rest ih =>
      rw [List.length_cons, ih, List.length_drop, List.length_cons]
      unfold packedLength
      cases width <;> simp only [Width.perByte] <;> omega

/-- Digits that were packed are unpacked.  Only the last group can be short, and what is
beyond it is cut off. -/
theorem unpack_pack {width : Width} {digits : Bytes} (below : DigitsBelow width.base digits) :
    unpack width digits.length (pack width digits) = digits := by
  fun_induction pack width digits with
  | case1 => rfl
  | case2 first rest ih =>
      generalize first :: rest = digits at below ih ⊢
      have restUnpacked := ih (below.drop _)
      unfold unpack at restUnpacked ⊢
      rw [List.flatMap_cons, toDigits_group (below.take _) (List.length_take_le _ _),
        List.length_take]
      rcases Nat.lt_or_ge digits.length width.perByte with short | full
      · rw [Nat.min_eq_right short.le, List.take_of_length_le short.le, List.append_assoc,
          List.take_left]
      · rw [Nat.min_eq_left full, Nat.sub_self, List.replicate_zero, List.append_nil,
          List.take_append, List.length_take, Nat.min_eq_left full, ← List.length_drop,
          restUnpacked, List.take_take, Nat.min_eq_right full, List.take_append_drop]

/-! ## The greatest and the least byte -/

/-- A byte chosen from one after the other stands in a relation to all of them that
each choice keeps. -/
theorem foldl_bounds (relation : UInt8 → UInt8 → Prop) {choose : UInt8 → UInt8 → UInt8}
    (refl : ∀ byte, relation byte byte)
    (trans : ∀ {first second third}, relation first second → relation second third →
      relation first third)
    (chosen : ∀ first second, relation (choose first second) first ∧
      relation (choose first second) second) (column : Bytes) (start : UInt8) :
    relation (column.foldl choose start) start ∧
      ∀ byte ∈ column, relation (column.foldl choose start) byte := by
  induction column generalizing start with
  | nil => exact ⟨refl start, by simp⟩
  | cons first rest ih =>
      obtain ⟨toChosen, toRest⟩ := ih (choose start first)
      obtain ⟨toStart, toFirst⟩ := chosen start first
      refine ⟨trans toChosen toStart, ?_⟩
      rintro byte (_ | ⟨_, member⟩)
      · exact trans toChosen toFirst
      · exact toRest byte member

theorem le_greatest {column : Bytes} {byte : UInt8} (member : byte ∈ column) :
    byte ≤ greatest column := by
  refine (foldl_bounds (fun first second => second ≤ first) UInt8.le_refl
    (fun below above => UInt8.le_trans above below) (fun first second => ?_) column 0).2 byte member
  simp only [UInt8.le_iff_toNat_le, UInt8.toNat_max]
  exact ⟨Nat.le_max_left _ _, Nat.le_max_right _ _⟩

theorem least_le {column : Bytes} {byte : UInt8} (member : byte ∈ column) :
    least column ≤ byte := by
  refine (foldl_bounds (· ≤ ·) UInt8.le_refl UInt8.le_trans
    (fun first second => ?_) column 255).2 byte member
  simp only [UInt8.le_iff_toNat_le, UInt8.toNat_min]
  exact ⟨Nat.min_le_left _ _, Nat.min_le_right _ _⟩

theorem digitsBelow_greatest (column : Bytes) :
    DigitsBelow (Width.ofMaximum (greatest column).toNat).base column := by
  intro digit member
  exact Width.lt_base_ofMaximum (UInt8.le_iff_toNat_le.mp (le_greatest member)) digit.toNat_lt

theorem digitsBelow_spread (column : Bytes) :
    DigitsBelow (Width.ofMaximum (greatest column - least column).toNat).base
      (column.map (· - least column)) := by
  intro digit member
  obtain ⟨byte, byteMember, rfl⟩ := List.mem_map.mp member
  refine Width.lt_base_ofMaximum ?_ (UInt8.toNat_lt _)
  have low := least_le byteMember
  have high := le_greatest byteMember
  rw [UInt8.toNat_sub_of_le _ _ low, UInt8.toNat_sub_of_le _ _ (UInt8.le_trans low high)]
  exact Nat.sub_le_sub_right (UInt8.le_iff_toNat_le.mp high) _

/-! ## Whole columns -/

/-- The packed digits behind a header are read with the width that it names. -/
theorem readByteColumn_header {count : Nat} (long : 2 < count) (header : UInt8) (bytes : Bytes)
    {width : Width} (named : Width.ofIndex? ((header.toNat + 1) / 2) = some width) :
    readByteColumn count (header :: bytes) = (do
      let (low, rest) ←
        if header.toNat % 2 = 1 then takeByte bytes else .ok (0, bytes)
      let (packed, rest) ← takeBytes (packedLength width count) rest
      return ((unpack width count packed).map (· + low), rest)) := by
  rw [readByteColumn, if_neg (by omega)]
  simp only [takeByte, bind, Except.bind, named]

theorem takeBytes_pack (width : Width) (digits rest : Bytes) :
    takeBytes (packedLength width digits.length) (pack width digits ++ rest) =
      .ok (pack width digits, rest) := by
  rw [← length_pack, takeBytes_append]

/-- A column of bytes that was written is read, whatever follows it.  If the least byte
was subtracted, the index of the width is positive and the header odd. -/
theorem readByteColumn_writeByteColumn (column rest : Bytes) :
    readByteColumn column.length (writeByteColumn column ++ rest) = .ok (column, rest) := by
  simp only [writeByteColumn]
  split_ifs with short narrower
  · rw [readByteColumn, if_pos short, takeBytes_append]
  · generalize widthEq : Width.ofMaximum (greatest column - least column).toNat = width
      at narrower ⊢
    have indexPositive : 0 < width.index := by omega
    have indexLe := width.index_le
    have header : (UInt8.ofNat (2 * width.index - 1)).toNat = 2 * width.index - 1 :=
      UInt8.toNat_ofNat_of_lt' (show 2 * width.index - 1 < 256 by omega)
    have named : Width.ofIndex? ((2 * width.index - 1 + 1) / 2) = some width := by
      rw [show (2 * width.index - 1 + 1) / 2 = width.index by omega, width.ofIndex?_index]
    have below := digitsBelow_spread column
    rw [widthEq] at below
    have digits := takeBytes_pack width (column.map (· - least column)) rest
    have unpacked := unpack_pack below
    rw [List.length_map] at digits unpacked
    rw [List.cons_append, readByteColumn_header (by omega) _ _ (header ▸ named), header,
      if_pos (by omega)]
    simp only [List.cons_append, takeByte, bind, Except.bind, digits, unpacked]
    simp [List.map_map, Function.comp_def, pure, Except.pure]
  · generalize widthEq : Width.ofMaximum (greatest column).toNat = width
    have indexLe := width.index_le
    have header : (UInt8.ofNat (2 * width.index)).toNat = 2 * width.index :=
      UInt8.toNat_ofNat_of_lt' (show 2 * width.index < 256 by omega)
    have named : Width.ofIndex? ((2 * width.index + 1) / 2) = some width := by
      rw [show (2 * width.index + 1) / 2 = width.index by omega, width.ofIndex?_index]
    have below := digitsBelow_greatest column
    rw [widthEq] at below
    rw [List.cons_append, readByteColumn_header (by omega) _ _ (header ▸ named), header,
      if_neg (by omega)]
    simp only [bind, Except.bind, takeBytes_pack, unpack_pack below]
    simp [pure, Except.pure]

end PointRecords.Packed
