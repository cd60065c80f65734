import PointRecords.Packed.Record
import PointRecords.Record

/-!
# Sessions

A session holds records under names, a set of colours and a buffer of packed
bytes.  Each step changes the session and is replied to.  Records are values: a
copy that is changed leaves what it was copied from as it was.
-/

namespace PointRecords

/-- The two kinds of record. -/
inductive Kind
  | point
  | colour
  deriving DecidableEq

/-- The state between two steps.  The colours are kept in increasing order of
their packed numbers, each of them once. -/
structure Session where
  slots : List (String × Record)
  colours : List Colour
  buffer : Packed.Bytes

namespace Session

/-- A change of one field of a record. -/
inductive Change
  | coordinate (place : Place) (value : Coordinate)
  | channel (place : Place) (value : UInt8)

/-- What can be asked of a session. -/
inductive Step
  | make (target : String) (record : Record)
  | check (target : String) (components : Triple Int)
  | copy (source target : String)
  | change (target : String) (change : Change)
  | compare (first second : String)
  | repack (source target : String) (top : UInt8)
  | rescale (source target : String) (shift : Triple Int)
  | exchange (source target : String)
  | insert (source : String)
  | remove (source : String)
  | members
  | encode (kind : Kind) (names : List String)
  | decode (kind : Kind)

/-- What a session replies. -/
inductive Reply
  | slot (record : Record)
  | rejected (error : RangeError)
  | equality (result : Option Bool)
  | exchanged (text : String) (back : Except Json.Fault Record)
  | inserted (isNew : Bool) (size : Nat)
  | removed (wasThere : Bool) (size : Nat)
  | colours (list : List Colour)
  | points (list : List Point)
  | bytes (bytes : Packed.Bytes)
  | unpackable (fault : Packed.Fault)
  | missing (name : String)

def empty : Session := ⟨[], [], []⟩

def store (session : Session) (name : String) (record : Record) : Session :=
  { session with slots := (name, record) :: session.slots.filter (·.1 != name) }

def find? (session : Session) (name : String) : Option Record :=
  session.slots.lookup name

def insertColour (colour : Colour) : List Colour → List Colour
  | [] => [colour]
  | other :: rest =>
      if colour = other then other :: rest
      else if colour.toPacked < other.toPacked then colour :: other :: rest
      else other :: insertColour colour rest

def Change.apply : Change → Record → Record
  | .coordinate place value, .point made =>
      .point (Point.ofTriple (made.toTriple.set place value))
  | .channel place value, .colour made =>
      .colour (Colour.ofTriple (made.toTriple.set place value))
  | _, record => record

/-- The colour after its packed number has passed with something in the top
byte. -/
def throughPacked (top : UInt8) (colour : Colour) : Colour :=
  Colour.ofPacked (colour.toPacked ||| top.toUInt32 <<< 24)

/-- The colour after its wide channels have been shifted, wrapping around. -/
def throughWide (shift : Triple Int) (colour : Colour) : Colour :=
  Colour.ofWide ((colour.toWide.zip shift).map fun (level, amount) =>
    level + UInt16.ofInt amount)

/-- The record that comes back from its JSON text. -/
def throughJson : Record → Except Json.Fault Record
  | .point made => (Point.ofJson made.toJson).map .point
  | .colour made => (Colour.ofJson made.toJson).map .colour

def pointsNamed (session : Session) (names : List String) : List Point :=
  names.filterMap fun name =>
    match session.find? name with
    | some (.point made) => some made
    | _ => none

def coloursNamed (session : Session) (names : List String) : List Colour :=
  names.filterMap fun name =>
    match session.find? name with
    | some (.colour made) => some made
    | _ => none

def check (session : Session) (target : String) (components : Triple Int) :
    Reply × Session :=
  match Colour.ofIntegers components.first components.second components.third with
  | .ok made => (.slot (.colour made), session.store target (.colour made))
  | .error error => (.rejected error, session)

def insert (session : Session) (colour : Colour) : Reply × Session :=
  let isNew := !session.colours.contains colour
  let colours := insertColour colour session.colours
  (.inserted isNew colours.length, { session with colours })

def remove (session : Session) (colour : Colour) : Reply × Session :=
  let wasThere := session.colours.contains colour
  let colours := session.colours.erase colour
  (.removed wasThere colours.length, { session with colours })

def encode (session : Session) (kind : Kind) (names : List String) : Reply × Session :=
  let buffer :=
    match kind with
    | .point => Packed.encodeList .coordinates ((session.pointsNamed names).map Point.toTriple)
    | .colour => Packed.encodeList .channels ((session.coloursNamed names).map Colour.toTriple)
  (.bytes buffer, { session with buffer })

def decode (session : Session) : Kind → Reply
  | .point =>
      match Packed.decodeList .coordinates session.buffer with
      | .ok list => .points (list.map Point.ofTriple)
      | .error fault => .unpackable fault
  | .colour =>
      match Packed.decodeList .channels session.buffer with
      | .ok list => .colours (list.map Colour.ofTriple)
      | .error fault => .unpackable fault

def withRecord (session : Session) (name : String) (carryOut : Record → Reply × Session) :
    Reply × Session :=
  match session.find? name with
  | some record => carryOut record
  | none => (.missing name, session)

def withColour (session : Session) (name : String) (carryOut : Colour → Reply × Session) :
    Reply × Session :=
  match session.find? name with
  | some (.colour made) => carryOut made
  | _ => (.missing name, session)

def rework (session : Session) (source target : String) (change : Colour → Colour) :
    Reply × Session :=
  session.withColour source fun made =>
    let record := Record.colour (change made)
    (.slot record, session.store target record)

def step (session : Session) : Step → Reply × Session
  | .make target record => (.slot record, session.store target record)
  | .check target components => session.check target components
  | .copy source target =>
      session.withRecord source fun record => (.slot record, session.store target record)
  | .change target change =>
      session.withRecord target fun record =>
        let changed := change.apply record
        (.slot changed, session.store target changed)
  | .compare first second =>
      session.withRecord first fun left =>
        session.withRecord second fun right => (.equality (left.equals? right), session)
  | .repack source target top => session.rework source target (throughPacked top)
  | .rescale source target shift => session.rework source target (throughWide shift)
  | .exchange source target =>
      session.withRecord source fun record =>
        match throughJson record with
        | .ok back => (.exchanged record.toJson (.ok back), session.store target back)
        | .error fault => (.exchanged record.toJson (.error fault), session)
  | .insert source => session.withColour source session.insert
  | .remove source => session.withColour source session.remove
  | .members => (.colours session.colours, session)
  | .encode kind names => session.encode kind names
  | .decode kind => (session.decode kind, session)

/-- The replies to some steps, the first of them asked of this session. -/
def replies (session : Session) : List Step → List Reply
  | [] => []
  | step :: rest =>
      let (reply, after) := session.step step
      reply :: after.replies rest

end Session

end PointRecords
