import PointRecords.Packed.Bytes

/-!
# Lengths

A length below 255 is one byte.  Any other is the byte 255, a header, and two,
four or eight bytes, or one; the header tells how many.  A reader also accepts
odd headers, after which a number of eight bytes is to be added to the length.
-/

namespace PointRecords.Packed

/-- The reader refuses lengths from here on. -/
def hugeLength : Nat := 0x7fffffffffffffff / 4096

def writeLength (length : Nat) : Bytes :=
  if length < 255 then [UInt8.ofNat length]
  else if length < 0x100 then 255 :: 6 :: toDigits 256 1 length
  else if length < 0x10000 then 255 :: 4 :: toDigits 256 2 length
  else if length < 0x100000000 then 255 :: 2 :: toDigits 256 4 length
  else 255 :: 0 :: toDigits 256 8 length

def lengthBytes? (header : Nat) : Option Nat :=
  match (header + 1) / 2 with
  | 0 => some 8
  | 1 => some 4
  | 2 => some 2
  | 3 => some 1
  | _ => none

def readLongLength (bytes : Bytes) : Except Fault (Nat × Bytes) := do
  let (header, rest) ← takeByte bytes
  match lengthBytes? header.toNat with
  | none => .error .invalidPacking
  | some count =>
      let (low, rest) ←
        if header.toNat % 2 = 1 then takeBytes 8 rest else .ok ([], rest)
      let (high, rest) ← takeBytes count rest
      let length := (ofDigits 256 low + ofDigits 256 high) % 0x10000000000000000
      if hugeLength ≤ length then .error .hugeLength
      else return (length, rest)

def readLength (bytes : Bytes) : Except Fault (Nat × Bytes) := do
  let (first, rest) ← takeByte bytes
  if first = 255 then readLongLength rest
  else return (first.toNat, rest)

end PointRecords.Packed
