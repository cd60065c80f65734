import PointRecords.Packed.Bytes

/-!
# Columns of bytes

Up to two bytes are written as they are.  A longer column begins with a header
that names a width: the number of values a digit can have.  Narrow digits share
bytes, several to each.  The width is picked by the greatest byte, or, if that
is narrower and the column long enough, by the spread of the bytes; then the
least byte follows the header and is subtracted from all.
-/

namespace PointRecords.Packed

/-- The number of values of a digit. -/
inductive Width
  | whole
  | sixteen
  | six
  | four
  | three
  | two
  deriving DecidableEq

namespace Width

/-- Widths are numbered from the widest. -/
def index : Width → Nat
  | .whole => 0
  | .sixteen => 1
  | .six => 2
  | .four => 3
  | .three => 4
  | .two => 5

def ofIndex? : Nat → Option Width
  | 0 => some .whole
  | 1 => some .sixteen
  | 2 => some .six
  | 3 => some .four
  | 4 => some .three
  | 5 => some .two
  | _ => none

def base : Width → Nat
  | .whole => 256
  | .sixteen => 16
  | .six => 6
  | .four => 4
  | .three => 3
  | .two => 2

def perByte : Width → Nat
  | .whole => 1
  | .sixteen => 2
  | .six => 3
  | .four => 4
  | .three => 5
  | .two => 8

/-- The width picked for digits up to a maximum. -/
def ofMaximum (maximum : Nat) : Width :=
  if maximum ≤ 1 then .two
  else if maximum ≤ 2 then .three
  else if maximum ≤ 3 then .four
  else if maximum ≤ 5 then .six
  else if maximum ≤ 15 then .sixteen
  else .whole

theorem perByte_pos (width : Width) : 0 < width.perByte := by
  cases width <;> decide

end Width

/-- Digits packed into bytes; the last byte may hold fewer. -/
def pack (width : Width) : Bytes → Bytes
  | [] => []
  | first :: rest =>
      UInt8.ofNat (ofDigits width.base ((first :: rest).take width.perByte)) ::
        pack width ((first :: rest).drop width.perByte)
termination_by digits => digits.length
decreasing_by
  have positive := width.perByte_pos
  simp only [List.length_drop, List.length_cons]
  omega

def unpack (width : Width) (count : Nat) (bytes : Bytes) : Bytes :=
  (bytes.flatMap fun byte => toDigits width.base width.perByte byte.toNat).take count

def packedLength (width : Width) (count : Nat) : Nat :=
  (count + width.perByte - 1) / width.perByte

/-- The greatest byte of a column, zero if it is empty. -/
def greatest (column : Bytes) : UInt8 :=
  column.foldl max 0

/-- The least byte of a column, 255 if it is empty. -/
def least (column : Bytes) : UInt8 :=
  column.foldl min 255

def writeByteColumn (column : Bytes) : Bytes :=
  if column.length ≤ 2 then column
  else
    let low := least column
    let high := greatest column
    let basic := Width.ofMaximum high.toNat
    let offset := Width.ofMaximum (high - low).toNat
    if basic.index < offset.index ∧ 5 < column.length then
      UInt8.ofNat (2 * offset.index - 1) :: low :: pack offset (column.map (· - low))
    else UInt8.ofNat (2 * basic.index) :: pack basic column

/-- Read a column of `count` bytes.  After an odd header follows the byte that
is added to all; half the header, rounded up, numbers the width. -/
def readByteColumn (count : Nat) (bytes : Bytes) : Except Fault (Bytes × Bytes) :=
  if count ≤ 2 then takeBytes count bytes
  else do
    let (header, rest) ← takeByte bytes
    match Width.ofIndex? ((header.toNat + 1) / 2) with
    | none => .error .invalidPacking
    | some width =>
        let (low, rest) ←
          if header.toNat % 2 = 1 then takeByte rest else .ok (0, rest)
        let (packed, rest) ← takeBytes (packedLength width count) rest
        return ((unpack width count packed).map (· + low), rest)

end PointRecords.Packed
