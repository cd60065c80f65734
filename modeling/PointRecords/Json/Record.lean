import PointRecords.Colour
import PointRecords.Json.Skip
import PointRecords.Point

/-!
# Records in JSON

A record is an object of three numeric members, or a list of the three numbers
in order.  Members may stand in any order; each of the three has to occur once,
and every other member is skipped.  Reading goes from the left, and the first
fault met is the one reported.
-/

namespace PointRecords.Json

variable {α : Type}

/-- What is particular to one kind of record: what it is called, its three
members, what is expected of their values, and which numbers they accept. -/
structure Shape (α : Type) where
  title : String
  names : Triple String
  expected : String
  ofNumber : Number → Except Fault α

namespace Shape

def place? (shape : Shape α) (name : List Char) : Option Place :=
  if name = shape.names.first.toList then some .first
  else if name = shape.names.second.toList then some .second
  else if name = shape.names.third.toList then some .third
  else none

end Shape

def atEnd (text : List Char) : Bool := (skipBlank text).isEmpty

/-- The fault of a word that has to be spelt out before its type is refused. -/
def mistypedWord (found : Found) (expected : String) (word text : List Char) : Fault :=
  match skipWord word text with
  | .error fault => fault
  | .ok _ => .wrongType found expected

/-- The fault of a value that is no number where something else is expected.
Words and strings are read to their ends; containers are refused at their
opening brackets. -/
def mistyped (expected : String) : List Char → Fault
  | 'n' :: rest => mistypedWord .null expected ['u', 'l', 'l'] rest
  | 't' :: rest => mistypedWord (.boolean true) expected ['r', 'u', 'e'] rest
  | 'f' :: rest => mistypedWord (.boolean false) expected ['a', 'l', 's', 'e'] rest
  | '"' :: rest =>
      match readString .paired rest with
      | .error fault => fault
      | .ok (characters, _) => .wrongType (.text characters) expected
  | '[' :: _ => .wrongType .sequence expected
  | '\x7b' :: _ => .wrongType .map expected
  | _ => .expectedValue

def readNumber (text : List Char) : Except Fault (Number × List Char) :=
  match Numeral.scan text with
  | .error .cutOff => .error .endInValue
  | .error .malformed => .error .invalidNumber
  | .ok (numeral, rest) =>
      match numeral.evaluate with
      | none => .error .numberOutOfRange
      | some number => .ok (number, rest)

theorem readNumber_shorter {text rest : List Char} {number : Number}
    (accepted : readNumber text = .ok (number, rest)) :
    rest.length < text.length := by
  unfold readNumber at accepted
  split at accepted
  · cases accepted
  · cases accepted
  · rename_i scanned
    split at accepted
    · cases accepted
    · cases accepted
      exact Numeral.scan_shorter scanned

def readField (shape : Shape α) (text : List Char) : Except Fault (α × List Char) :=
  match skipBlank text with
  | [] => .error .endInValue
  | character :: rest =>
      if Numeral.isStart character then
        match readNumber (character :: rest) with
        | .error fault => .error fault
        | .ok (number, after) =>
            match shape.ofNumber number with
            | .error fault => .error fault
            | .ok value => .ok (value, after)
      else .error (mistyped shape.expected (character :: rest))

theorem readField_shorter {shape : Shape α} {text rest : List Char} {field : α}
    (accepted : readField shape text = .ok (field, rest)) :
    rest.length < text.length := by
  unfold readField at accepted
  have blankBound := skipBlank_length_le text
  split at accepted
  · cases accepted
  · rename_i blank
    rw [blank] at blankBound
    split at accepted
    · split at accepted
      · cases accepted
      · rename_i read
        have shorter := readNumber_shorter read
        split at accepted
        · cases accepted
        · cases accepted
          omega
    · cases accepted

/-- Read one more element of a list that must have three; `count` elements have
been read. -/
def readElement (shape : Shape α) (count : Nat) (text : List Char) :
    Except Fault (α × List Char) :=
  match skipBlank text with
  | [] => .error (.endIn .list)
  | ']' :: _ => .error (.wrongLength count shape.title)
  | character :: rest =>
      if count = 0 then readField shape (character :: rest)
      else if character = ',' then
        match skipBlank rest with
        | ']' :: _ => .error .trailingComma
        | element => readField shape element
      else .error (.expectedComma .list)

/-- The end of a list after its third element. -/
def closeList (text : List Char) : Except Fault (List Char) :=
  match skipBlank text with
  | [] => .error (.endIn .list)
  | ']' :: rest => .ok rest
  | ',' :: rest =>
      match skipBlank rest with
      | ']' :: _ => .error .trailingComma
      | _ => .error .trailingCharacters
  | _ => .error .trailingCharacters

/-- A record as a list, after its opening bracket. -/
def readList (shape : Shape α) (text : List Char) :
    Except Fault (Triple α × List Char) := do
  let (first, text) ← readElement shape 0 text
  let (second, text) ← readElement shape 1 text
  let (third, text) ← readElement shape 2 text
  let text ← closeList text
  return (⟨first, second, third⟩, text)

/-- A key after its opening quotation mark is expected here. -/
def readQuotedKey (text : List Char) : Except Fault (Option (List Char) × List Char) :=
  match text with
  | '"' :: rest =>
      match readString .paired rest with
      | .error fault => .error fault
      | .ok (key, after) => .ok (some key, after)
  | _ => .error .keyNotString

/-- The next key of an object, or none at its end. -/
def readKey (isFirst : Bool) (text : List Char) :
    Except Fault (Option (List Char) × List Char) :=
  match skipBlank text with
  | [] => .error (.endIn .object)
  | '\x7d' :: rest => .ok (none, rest)
  | character :: rest =>
      if isFirst then readQuotedKey (character :: rest)
      else if character = ',' then
        match skipBlank rest with
        | [] => .error .endInValue
        | '\x7d' :: _ => .error .trailingComma
        | key => readQuotedKey key
      else .error (.expectedComma .object)

theorem readQuotedKey_shorter {text rest : List Char} {key : Option (List Char)}
    (accepted : readQuotedKey text = .ok (key, rest)) :
    rest.length < text.length := by
  unfold readQuotedKey at accepted
  split at accepted
  · split at accepted
    · cases accepted
    · rename_i read
      cases accepted
      exact Nat.lt_succ_of_lt (readString_shorter read)
  · cases accepted

theorem readKey_shorter {isFirst : Bool} {text rest : List Char}
    {key : Option (List Char)} (accepted : readKey isFirst text = .ok (key, rest)) :
    rest.length < text.length := by
  unfold readKey at accepted
  have blankBound := skipBlank_length_le text
  split at accepted
  · cases accepted
  · rename_i blank
    cases accepted
    exact length_lt_of_skipBlank blank
  · rename_i character more _ blank
    rw [blank] at blankBound
    split at accepted
    · have shorter := readQuotedKey_shorter accepted
      omega
    · split at accepted
      · have keyBound := skipBlank_length_le more
        split at accepted
        · cases accepted
        · cases accepted
        · have shorter := readQuotedKey_shorter accepted
          simp only [List.length_cons] at blankBound
          omega
      · cases accepted

def readColon (text : List Char) : Except Fault (List Char) :=
  match skipBlank text with
  | [] => .error (.endIn .object)
  | ':' :: rest => .ok rest
  | _ => .error .expectedColon

theorem readColon_shorter {text rest : List Char}
    (accepted : readColon text = .ok rest) :
    rest.length < text.length := by
  unfold readColon at accepted
  split at accepted
  · cases accepted
  · rename_i blank
    cases accepted
    exact length_lt_of_skipBlank blank
  · cases accepted

/-- Read the colon and the value that belong to a key.  A name that has been
seen is refused at once. -/
def readMember (shape : Shape α) (found : Triple (Option α)) (key text : List Char) :
    Except Fault (Triple (Option α) × List Char) :=
  match shape.place? key with
  | some place =>
      if (found.get place).isSome then .error (.duplicateField (shape.names.get place))
      else
        match readColon text with
        | .error fault => .error fault
        | .ok afterColon =>
            match readField shape afterColon with
            | .error fault => .error fault
            | .ok (field, rest) => .ok (found.set place (some field), rest)
  | none =>
      match readColon text with
      | .error fault => .error fault
      | .ok afterColon =>
          match skipValue afterColon with
          | .error fault => .error fault
          | .ok rest => .ok (found, rest)

theorem readMember_shorter {shape : Shape α} {found updated : Triple (Option α)}
    {key text rest : List Char}
    (accepted : readMember shape found key text = .ok (updated, rest)) :
    rest.length < text.length := by
  unfold readMember at accepted
  split at accepted
  · split at accepted
    · cases accepted
    · split at accepted
      · cases accepted
      · rename_i colon
        have first := readColon_shorter colon
        split at accepted
        · cases accepted
        · rename_i read
          have second := readField_shorter read
          cases accepted
          omega
  · split at accepted
    · cases accepted
    · rename_i colon
      have first := readColon_shorter colon
      split at accepted
      · cases accepted
      · rename_i skipped
        have second := skipWithin_shorter skipped
        cases accepted
        omega

/-- The three values of an object, if none is missing. -/
def complete (shape : Shape α) (found : Triple (Option α)) : Except Fault (Triple α) :=
  match found.first, found.second, found.third with
  | some first, some second, some third => .ok ⟨first, second, third⟩
  | none, _, _ => .error (.missingField shape.names.first)
  | some _, none, _ => .error (.missingField shape.names.second)
  | some _, some _, none => .error (.missingField shape.names.third)

/-- The members of an object from here on, `found` being those already read. -/
def readMembers (shape : Shape α) (found : Triple (Option α)) (isFirst : Bool)
    (text : List Char) : Except Fault (Triple α × List Char) :=
  match _ : readKey isFirst text with
  | .error fault => .error fault
  | .ok (none, rest) =>
      match complete shape found with
      | .error fault => .error fault
      | .ok fields => .ok (fields, rest)
  | .ok (some key, afterKey) =>
      match _ : readMember shape found key afterKey with
      | .error fault => .error fault
      | .ok (updated, rest) => readMembers shape updated false rest
termination_by text.length
decreasing_by
  rename_i keyRead memberRead
  have first := readKey_shorter keyRead
  have second := readMember_shorter memberRead
  omega

/-- The fault of a text that does not begin with a container. -/
def mistypedRecord (title : String) (character : Char) (rest : List Char) : Fault :=
  if Numeral.isStart character then
    match readNumber (character :: rest) with
    | .error fault => fault
    | .ok (number, _) => .wrongType (.number number) title
  else mistyped title (character :: rest)

def readRecord (shape : Shape α) (text : List Char) :
    Except Fault (Triple α × List Char) :=
  match skipBlank text with
  | [] => .error .endInValue
  | '[' :: rest => readList shape rest
  | '\x7b' :: rest => readMembers shape ⟨none, none, none⟩ true rest
  | character :: rest => .error (mistypedRecord shape.title character rest)

/-- Read a text that holds one record and nothing else. -/
def read (shape : Shape α) (text : List Char) : Except Fault (Triple α) :=
  match readRecord shape text with
  | .error fault => .error fault
  | .ok (fields, rest) =>
      if atEnd rest then .ok fields else .error .trailingCharacters

/-- A coordinate takes every number, rounded to single precision. -/
def coordinateOfNumber : Number → Except Fault Coordinate
  | .integer value => .ok (.ofInt value)
  | .floating value => .ok (value.convert .single)

/-- A channel takes integers that fit it, and nothing with a point or an
exponent. -/
def channelOfNumber : Number → Except Fault UInt8
  | .integer value =>
      if 0 ≤ value ∧ value ≤ 255 then .ok (UInt8.ofNat value.toNat)
      else .error (.wrongValue (.number (.integer value)) "u8")
  | .floating value => .error (.wrongType (.number (.floating value)) "u8")

def pointShape : Shape Coordinate :=
  ⟨"struct PointXyz", ⟨"x", "y", "z"⟩, "f32", coordinateOfNumber⟩

def colourShape : Shape UInt8 :=
  ⟨"struct Rgb", ⟨"r", "g", "b"⟩, "u8", channelOfNumber⟩

def write (names texts : Triple String) : String :=
  "\x7b\"" ++ names.first ++ "\":" ++ texts.first ++ ",\"" ++ names.second ++ "\":" ++
    texts.second ++ ",\"" ++ names.third ++ "\":" ++ texts.third ++ "\x7d"

/-- The JSON text of a coordinate; only finite ones have a number. -/
def coordinateText (coordinate : Coordinate) : String :=
  if coordinate.isFinite then coordinate.text .jsonSingle else "null"

end PointRecords.Json

namespace PointRecords

open Json

namespace Point

def toJson (point : Point) : String :=
  Json.write pointShape.names (point.toTriple.map coordinateText)

def ofJson (text : String) : Except Fault Point :=
  (Json.read pointShape text.toList).map ofTriple

end Point

namespace Colour

def toJson (colour : Colour) : String :=
  Json.write colourShape.names (colour.toTriple.map channelText)

def ofJson (text : String) : Except Fault Colour :=
  (Json.read colourShape text.toList).map ofTriple

end Colour

end PointRecords
