/-!
# Ranges of encoded characters

The characters of a range, written in UTF-8, are the sequences of bytes that go
through one of some sequences of byte ranges.  A sequence of byte ranges belongs
to characters of one length that differ freely from some byte on.
-/

namespace PointRecords.Regex

/-- A range of bytes for each place of a sequence. -/
abbrev ByteRanges := List (Nat × Nat)

/-- The sequences for numbers of six bits a byte, the first byte of which begins
at `base`; so many bytes follow it. -/
def sequencesFrom (base : Nat) : Nat → Nat → Nat → List ByteRanges
  | 0, first, last => [[(base + first, base + last)]]
  | following + 1, first, last =>
      let unit := Nat.pow 64 (following + 1)
      let low := first / unit
      let high := last / unit
      let under (lead least greatest : Nat) : List ByteRanges :=
        (sequencesFrom 0x80 following least greatest).map ((base + lead, base + lead) :: ·)
      if low = high then under low (first % unit) (last % unit)
      else
        let isWholeLow := first % unit == 0
        let isWholeHigh := last % unit == unit - 1
        let lowest := if isWholeLow then low else low + 1
        let highest := if isWholeHigh then high else high - 1
        (if isWholeLow then [] else under low (first % unit) (unit - 1)) ++
          (if lowest ≤ highest then
            [(base + lowest, base + highest) :: List.replicate (following + 1) (0x80, 0xbf)]
          else []) ++
          (if isWholeHigh then [] else under high 0 (last % unit))

/-- The code points of one length: the first and the last of them, the base of the
first byte, and how many bytes follow it.  There are no surrogates. -/
def encodedLengths : List (Nat × Nat × Nat × Nat) :=
  [(0, 0x7f, 0, 0), (0x80, 0x7ff, 0xc0, 1), (0x800, 0xd7ff, 0xe0, 2), (0xe000, 0xffff, 0xe0, 2),
    (0x10000, 0x10ffff, 0xf0, 3)]

def encodedRange (range : Nat × Nat) : List ByteRanges :=
  encodedLengths.flatMap fun (least, greatest, base, following) =>
    let first := max range.1 least
    let last := min range.2 greatest
    if first ≤ last then sequencesFrom base following first last else []

def encodedRanges (ranges : List (Nat × Nat)) : List ByteRanges := ranges.flatMap encodedRange

/-- Sequences by their first bytes, each with what follows it. -/
def byFirstBytes : List ByteRanges → List ((Nat × Nat) × List ByteRanges)
  | [] => []
  | [] :: rest => byFirstBytes rest
  | (first :: following) :: rest =>
      match byFirstBytes rest with
      | (other, more) :: groups =>
          if first = other then (first, following :: more) :: groups
          else (first, [following]) :: (other, more) :: groups
      | [] => [(first, [following])]

/-- What may still follow after some bytes, for all beginnings of sequences of
so many bytes at most. -/
def remainders : Nat → List ByteRanges → List (List ByteRanges)
  | 0, _ => []
  | bytes + 1, sequences =>
      sequences :: (byFirstBytes sequences).flatMap fun (_, following) =>
        if following = [[]] then [] else remainders bytes following

/-- The beginnings of a sequence that hold something. -/
def beginnings (sequence : ByteRanges) : List ByteRanges :=
  (List.range sequence.length).map fun index => sequence.take (index + 1)

end PointRecords.Regex
