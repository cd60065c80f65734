import PointRecords.Colour

/-!
# The hash of a colour

Colours are hashed with SipHash-1-3 under the zero key: one round for each block
of eight bytes, three to finish.  The three channels fit into the last block,
which also holds the length of the message in its top byte.
-/

namespace PointRecords.Colour

/-- The four words on which SipHash works. -/
structure SipState where
  v0 : UInt64
  v1 : UInt64
  v2 : UInt64
  v3 : UInt64

def rotateLeft (word : UInt64) (amount : UInt64) : UInt64 :=
  word <<< amount ||| word >>> (64 - amount)

namespace SipState

def initial : SipState :=
  ⟨0x736f6d6570736575, 0x646f72616e646f6d, 0x6c7967656e657261, 0x7465646279746573⟩

def round (state : SipState) : SipState :=
  let a := state.v0 + state.v1
  let b := rotateLeft state.v1 13 ^^^ a
  let c := state.v2 + state.v3
  let d := rotateLeft state.v3 16 ^^^ c
  let e := rotateLeft a 32 + d
  let f := rotateLeft d 21 ^^^ e
  let g := c + b
  let h := rotateLeft b 17 ^^^ g
  ⟨e, h, rotateLeft g 32, f⟩

def absorb (state : SipState) (block : UInt64) : SipState :=
  let mixed := ({ state with v3 := state.v3 ^^^ block }).round
  { mixed with v0 := mixed.v0 ^^^ block }

def finish (state : SipState) : UInt64 :=
  let last := ({ state with v2 := state.v2 ^^^ 0xff }).round.round.round
  last.v0 ^^^ last.v1 ^^^ last.v2 ^^^ last.v3

end SipState

def hash (colour : Colour) : UInt64 :=
  let block : UInt64 :=
    (3 : UInt64) <<< 56 ||| colour.blue.toUInt64 <<< 16 ||| colour.green.toUInt64 <<< 8 |||
      colour.red.toUInt64
  (SipState.initial.absorb block).finish

end PointRecords.Colour
