import PointRecords.Colour
import PointRecords.Packed.ByteColumn
import PointRecords.Packed.FloatColumn
import PointRecords.Packed.Length

/-!
# Packed records

Records are packed field by field: the first fields of all records form a
column, then the second fields, then the third.  A list has its length in front;
a single record is three columns of one.  Nothing may follow.
-/

namespace PointRecords.Packed

variable {α : Type}

/-- How the columns of one kind of field are written and read. -/
structure Column (α : Type) where
  write : List α → Bytes
  read : Nat → Bytes → Except Fault (List α × Bytes)

def Column.channels : Column UInt8 := ⟨writeByteColumn, readByteColumn⟩

def Column.coordinates : Column Coordinate := ⟨writeFloatColumn, readFloatColumn⟩

def writeColumns (column : Column α) (records : List (Triple α)) : Bytes :=
  column.write (records.map Triple.first) ++ column.write (records.map Triple.second) ++
    column.write (records.map Triple.third)

def joinColumns (firsts seconds thirds : List α) : List (Triple α) :=
  (firsts.zip (seconds.zip thirds)).map fun (first, second, third) =>
    ⟨first, second, third⟩

def readColumns (column : Column α) (count : Nat) (bytes : Bytes) :
    Except Fault (List (Triple α) × Bytes) := do
  let (firsts, rest) ← column.read count bytes
  let (seconds, rest) ← column.read count rest
  let (thirds, rest) ← column.read count rest
  return (joinColumns firsts seconds thirds, rest)

def encodeOne (column : Column α) (record : Triple α) : Bytes :=
  writeColumns column [record]

def encodeList (column : Column α) (records : List (Triple α)) : Bytes :=
  writeLength records.length ++ writeColumns column records

/-- What was read, if nothing is left. -/
def finished (result : List (Triple α) × Bytes) : Except Fault (List (Triple α)) :=
  if result.2.isEmpty then .ok result.1 else .error .tooLong

/-- The record of a list of one. -/
def single : List (Triple α) → Except Fault (Triple α)
  | [record] => .ok record
  | _ => .error .tooShort

def decodeOne (column : Column α) (bytes : Bytes) : Except Fault (Triple α) :=
  readColumns column 1 bytes >>= finished >>= single

def decodeList (column : Column α) (bytes : Bytes) : Except Fault (List (Triple α)) := do
  let (length, rest) ← readLength bytes
  readColumns column length rest >>= finished

end PointRecords.Packed
