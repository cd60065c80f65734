import PointRecords.Text.Blank

/-!
# Texts for a terminal

A message for a terminal sets off what the user typed by control sequences, and
what the user typed may hold control sequences of its own.  Where no terminal
listens, all of them are taken out.  A text that is handed over in one piece
starts afresh after every character that is shown; a text that is streamed goes
on with the control sequence that was interrupted.
-/

namespace PointRecords.Text

/-- Where a terminal stands inside a control sequence.  A `command` may take
parameters, intermediate characters or be `ignored`; a device string opens in
the same way; a `title` ends with the bell, a `string` with a terminator. -/
inductive Terminal
  | ground
  | escape
  | escapeIntermediate
  | commandStart
  | command
  | commandIntermediate
  | ignored
  | deviceStart
  | device
  | deviceIntermediate
  | title
  | string
  deriving DecidableEq

namespace Terminal

def afterEscape (code : Nat) : Terminal :=
  if 0x20 ≤ code && code ≤ 0x2f then .escapeIntermediate
  else if code == 0x5b then .commandStart
  else if code == 0x50 then .deviceStart
  else if code == 0x5d then .title
  else if code == 0x58 || code == 0x5e || code == 0x5f then .string
  else if 0x30 ≤ code && code ≤ 0x7e then .ground
  else .escape

def inCommand (state : Terminal) (code : Nat) : Terminal :=
  if 0x40 ≤ code && code ≤ 0x7e then .ground
  else if state == .ignored then .ignored
  else if 0x20 ≤ code && code ≤ 0x2f then .commandIntermediate
  else if 0x30 ≤ code && code ≤ 0x3b then
    if state == .commandIntermediate then .ignored else .command
  else if 0x3c ≤ code && code ≤ 0x3f then
    if state == .commandStart then .command else .ignored
  else state

/-- What a character does at the opening of a device string. -/
def inDevice (state : Terminal) (code : Nat) : Terminal :=
  if 0x40 ≤ code && code ≤ 0x7e then .string
  else if 0x20 ≤ code && code ≤ 0x2f then .deviceIntermediate
  else if 0x30 ≤ code && code ≤ 0x3b then
    if state == .deviceIntermediate then .string else .device
  else if 0x3c ≤ code && code ≤ 0x3f then
    if state == .deviceStart then .device else .string
  else state

/-- The byte 9C ends a string, also where it is part of a character. -/
def terminatesString (character : Char) : Bool :=
  (String.utf8EncodeChar character).contains 0x9c

def next (state : Terminal) (character : Char) : Terminal :=
  let code := character.toNat
  if code == 0x1b then .escape
  else if code == 0x18 || code == 0x1a then .ground
  else if 0x80 ≤ code then
    if state == .string && terminatesString character then .ground else state
  else
    match state with
    | .ground => .ground
    | .escape => afterEscape code
    | .escapeIntermediate => if 0x30 ≤ code && code ≤ 0x7e then .ground else .escapeIntermediate
    | .commandStart | .command | .commandIntermediate | .ignored => inCommand state code
    | .deviceStart | .device | .deviceIntermediate => inDevice state code
    | .title => if code == 0x07 then .ground else .title
    | .string => .string

/-- Inside a title or a device string, spacing is not carried out. -/
def carriesOutSpacing : Terminal → Bool
  | .deviceStart | .device | .deviceIntermediate | .title | .string => false
  | _ => true

/-- A line break, a tab or another control that only moves the cursor. -/
def isSpacing (character : Char) : Bool :=
  character == '\t' || character == '\n' || character == '\x0c' || character == '\r'

/-- The character is shown where the terminal stands. -/
def shows (state : Terminal) (character : Char) : Bool :=
  if isSpacing character then state.carriesOutSpacing
  else state == .ground && 0x20 ≤ character.toNat && character.toNat != 0x7f

end Terminal

/-- What is shown of a text in one piece: a character that is shown ends the
control sequence it stands in. -/
def shown : Terminal → List Char → List Char
  | _, [] => []
  | state, character :: rest =>
      if state.shows character then character :: shown .ground rest
      else shown (state.next character) rest

/-- What is shown of a streamed text: once a character is shown, so are those
after it, up to one that never is; then the control sequence goes on, unless a
character beyond ASCII has ended it. -/
def streamed : Bool → Terminal → List Char → List Char
  | _, _, [] => []
  | showing, state, character :: rest =>
      if (if showing then Terminal.ground else state).shows character then
        character :: streamed true (if character.toNat < 0x80 then state else .ground) rest
      else streamed false (state.next character) rest

def shownText (text : String) : String :=
  String.ofList (shown .ground text.toList)

def streamedText (text : String) : String :=
  String.ofList (streamed false .ground text.toList)

/-- A text that is set off from those around it. -/
def emphasised (text : String) : String := "\x1b[1m" ++ text ++ "\x1b[0m"

def firstParagraph : List Char → List Char
  | [] => []
  | '\n' :: '\n' :: _ => []
  | character :: rest => character :: firstParagraph rest

def headline (message : String) : String :=
  String.ofList (trimEnd (firstParagraph message.toList))

end PointRecords.Text
