import PointRecords.Packed.Length
import PointRecords.Proofs.Packed.Bytes

/-!
# Lengths are read back

A length in the unsigned 64-bit range is written with as many bytes as it needs and
read again, whatever follows it; a huge one is recognised and refused.
-/

namespace PointRecords.Packed

/-- A length in the bytes that its header announces is read or refused. -/
theorem readLongLength_header {length count : Nat} (header : UInt8)
    (announced : lengthBytes? header.toNat = some count) (even : header.toNat % 2 = 0)
    (below : length < 256 ^ count) (fits : length < 2 ^ 64) (rest : Bytes) :
    readLongLength (header :: (toDigits 256 count length ++ rest)) =
      if hugeLength ≤ length then .error .hugeLength else .ok (length, rest) := by
  have taken := takeBytes_append (toDigits 256 count length) rest
  rw [toDigits_length] at taken
  have number : (ofDigits 256 [] + ofDigits 256 (toDigits 256 count length)) % 0x10000000000000000 =
      length := by
    rw [ofDigits_toDigits (Nat.le_refl 256) below, ofDigits, Nat.zero_add]
    exact Nat.mod_eq_of_lt fits
  simp only [readLongLength, takeByte, bind, Except.bind, announced, even, Nat.zero_ne_one,
    if_false, taken, number]
  rfl

/-- A length that was written is read or refused, whatever follows it. -/
theorem readLength_writeLength {length : Nat} (fits : length < 2 ^ 64) (rest : Bytes) :
    readLength (writeLength length ++ rest) =
      if hugeLength ≤ length then .error .hugeLength else .ok (length, rest) := by
  generalize resultEq : (if hugeLength ≤ length then Except.error Fault.hugeLength
    else .ok (length, rest)) = result
  have long : ∀ (header : UInt8) (count : Nat), lengthBytes? header.toNat = some count →
      header.toNat % 2 = 0 → length < 256 ^ count →
      readLength (255 :: header :: (toDigits 256 count length ++ rest)) = result :=
    fun header _ announced even below =>
      (readLongLength_header header announced even below fits rest).trans resultEq
  simp only [writeLength]
  split_ifs with one two four eight
  · have notHuge : ¬ hugeLength ≤ length := by
      unfold hugeLength
      omega
    have byte : (UInt8.ofNat length).toNat = length :=
      UInt8.toNat_ofNat_of_lt' (show length < 256 by omega)
    have notMark : UInt8.ofNat length ≠ 255 := by
      intro mark
      rw [mark] at byte
      exact absurd byte (show 255 ≠ length by omega)
    rw [← resultEq, if_neg notHuge]
    simp only [List.singleton_append, readLength, takeByte, bind, Except.bind, notMark, if_false,
      byte]
    rfl
  · exact long 6 1 rfl rfl two
  · exact long 4 2 rfl rfl four
  · exact long 2 4 rfl rfl eight
  · exact long 0 8 rfl rfl fits

end PointRecords.Packed
