import PointRecords.Json.Fault
import PointRecords.Text.Hexadecimal

/-!
# JSON strings

A string is read piece by piece: a piece is a character, an escape, or the
closing quotation mark.  How `\u` escapes are read is a rule of its own.  Where a
string matters they stand for characters, and surrogates have to come in pairs;
where it is skipped, four hexadecimal digits are enough.
-/

namespace PointRecords.Json

def isBlank (character : Char) : Bool :=
  character == ' ' || character == '\n' || character == '\t' || character == '\r'

def skipBlank (text : List Char) : List Char := text.dropWhile isBlank

theorem skipBlank_length_le (text : List Char) :
    (skipBlank text).length ≤ text.length :=
  (List.dropWhile_suffix isBlank).length_le

theorem length_lt_of_skipBlank {text rest : List Char} {character : Char}
    (split : skipBlank text = character :: rest) :
    rest.length < text.length := by
  have bound := skipBlank_length_le text
  rw [split] at bound
  simpa [Nat.succ_le_iff] using bound

/-- The character that a short escape stands for. -/
def escaped? : Char → Option Char
  | '"' => some '"'
  | '\\' => some '\\'
  | '/' => some '/'
  | 'b' => some '\x08'
  | 'f' => some '\x0c'
  | 'n' => some '\n'
  | 'r' => some '\r'
  | 't' => some '\t'
  | _ => none

def byteCount : List Char → Nat
  | [] => 0
  | character :: rest => character.utf8Size + byteCount rest

/-- The value of four hexadecimal digits.  A text of fewer than four bytes is
too short for them; any other that does not begin with them is malformed. -/
def hexQuad : List Char → Except Fault (Nat × List Char)
  | first :: second :: third :: fourth :: rest =>
      match Text.hexDigit? first, Text.hexDigit? second, Text.hexDigit? third,
          Text.hexDigit? fourth with
      | some a, some b, some c, some d =>
          .ok (((a * 16 + b) * 16 + c) * 16 + d, rest)
      | _, _, _, _ => .error .invalidEscape
  | text => .error (if byteCount text < 4 then .endInString else .invalidEscape)

theorem hexQuad_shorter {text rest : List Char} {code : Nat}
    (accepted : hexQuad text = .ok (code, rest)) :
    rest.length < text.length := by
  unfold hexQuad at accepted
  split at accepted
  · split at accepted
    · cases accepted
      simp only [List.length_cons]
      omega
    · cases accepted
  · cases accepted

/-- A code unit that begins a surrogate pair. -/
def isHighSurrogate (code : Nat) : Bool := 0xd800 ≤ code && code ≤ 0xdbff

/-- A code unit that ends a surrogate pair. -/
def isLowSurrogate (code : Nat) : Bool := 0xdc00 ≤ code && code ≤ 0xdfff

/-- The second half of a surrogate pair, after its backslash and `u`. -/
def readLowSurrogate (high : Nat) (text : List Char) : Except Fault (Char × List Char) :=
  match hexQuad text with
  | .error fault => .error fault
  | .ok (low, rest) =>
      if isLowSurrogate low then
        .ok (Char.ofNat (0x10000 + (high - 0xd800) * 0x400 + (low - 0xdc00)), rest)
      else .error .loneSurrogate

/-- The character of a `\u` escape, surrogates paired. -/
def readPaired (text : List Char) : Except Fault (Char × List Char) :=
  match hexQuad text with
  | .error fault => .error fault
  | .ok (code, rest) =>
      if isLowSurrogate code then .error .loneSurrogate
      else if isHighSurrogate code then
        match rest with
        | '\\' :: 'u' :: more => readLowSurrogate code more
        | [] | ['\\'] => .error .endInString
        | _ => .error .surrogateCutOff
      else .ok (Char.ofNat code, rest)

/-- The code unit of a `\u` escape, whatever it is; a surrogate counts as the
null character. -/
def readUnpaired (text : List Char) : Except Fault (Char × List Char) :=
  match hexQuad text with
  | .error fault => .error fault
  | .ok (code, rest) => .ok (Char.ofNat code, rest)

theorem readLowSurrogate_shorter {high : Nat} {text rest : List Char} {character : Char}
    (accepted : readLowSurrogate high text = .ok (character, rest)) :
    rest.length < text.length := by
  unfold readLowSurrogate at accepted
  split at accepted
  · cases accepted
  · rename_i low after quad
    split at accepted
    · simp only [Except.ok.injEq, Prod.mk.injEq] at accepted
      rw [← accepted.2]
      exact hexQuad_shorter quad
    · cases accepted

theorem readPaired_shorter {text rest : List Char} {character : Char}
    (accepted : readPaired text = .ok (character, rest)) :
    rest.length < text.length := by
  unfold readPaired at accepted
  split at accepted
  · cases accepted
  · rename_i code after quad
    have first := hexQuad_shorter quad
    split at accepted
    · cases accepted
    · split at accepted
      · split at accepted
        · have second := readLowSurrogate_shorter accepted
          simp only [List.length_cons] at first
          omega
        · cases accepted
        · cases accepted
        · cases accepted
      · cases accepted
        exact first

theorem readUnpaired_shorter {text rest : List Char} {character : Char}
    (accepted : readUnpaired text = .ok (character, rest)) :
    rest.length < text.length := by
  unfold readUnpaired at accepted
  split at accepted
  · cases accepted
  · rename_i code after quad
    cases accepted
    exact hexQuad_shorter quad

/-- How `\u` escapes are read. -/
structure UnicodeRule where
  read : List Char → Except Fault (Char × List Char)
  shorter : ∀ {text rest : List Char} {character : Char},
    read text = .ok (character, rest) → rest.length < text.length

namespace UnicodeRule

/-- Escapes stand for characters, and surrogates come in pairs. -/
def paired : UnicodeRule := ⟨readPaired, readPaired_shorter⟩

/-- Four hexadecimal digits are enough. -/
def unpaired : UnicodeRule := ⟨readUnpaired, readUnpaired_shorter⟩

end UnicodeRule

/-- The next piece of a string: a character, or none at the closing quotation
mark. -/
def readPiece (rule : UnicodeRule) :
    List Char → Except Fault (Option Char × List Char)
  | [] => .error .endInString
  | '"' :: rest => .ok (none, rest)
  | '\\' :: [] => .error .endInString
  | '\\' :: 'u' :: rest =>
      match rule.read rest with
      | .error fault => .error fault
      | .ok (character, after) => .ok (some character, after)
  | '\\' :: mark :: rest =>
      match escaped? mark with
      | some character => .ok (some character, rest)
      | none => .error .invalidEscape
  | character :: rest =>
      if character.toNat < 0x20 then .error .controlCharacter
      else .ok (some character, rest)

theorem readPiece_shorter {rule : UnicodeRule} {text rest : List Char}
    {piece : Option Char} (accepted : readPiece rule text = .ok (piece, rest)) :
    rest.length < text.length := by
  unfold readPiece at accepted
  split at accepted
  · cases accepted
  · cases accepted
    simp
  · cases accepted
  · split at accepted
    · cases accepted
    · rename_i character after read
      cases accepted
      have shorter := rule.shorter read
      simp only [List.length_cons]
      omega
  · split at accepted
    · cases accepted
      simp only [List.length_cons]
      omega
    · cases accepted
  · split at accepted
    · cases accepted
    · cases accepted
      simp

/-- A string after its opening quotation mark, and what follows its closing
one. -/
def readString (rule : UnicodeRule) (text : List Char) :
    Except Fault (List Char × List Char) :=
  match _ : readPiece rule text with
  | .error fault => .error fault
  | .ok (none, rest) => .ok ([], rest)
  | .ok (some character, rest) =>
      match readString rule rest with
      | .error fault => .error fault
      | .ok (characters, after) => .ok (character :: characters, after)
termination_by text.length
decreasing_by exact readPiece_shorter (by assumption)

theorem readString_shorter {rule : UnicodeRule} {text rest characters : List Char}
    (accepted : readString rule text = .ok (characters, rest)) :
    rest.length < text.length := by
  induction text using readString.induct rule generalizing characters rest with
  | case1 text fault piece =>
      rw [readString] at accepted
      split at accepted <;> simp_all
  | case2 text after piece =>
      rw [readString] at accepted
      split at accepted
      · cases accepted
      · rename_i found
        cases accepted
        exact readPiece_shorter found
      · simp_all
  | case3 text character after piece fault failed ih =>
      rw [readString] at accepted
      split at accepted
      · cases accepted
      · simp_all
      · rename_i found
        rw [piece] at found
        cases found
        rw [failed] at accepted
        cases accepted
  | case4 text character after piece more last read ih =>
      rw [readString] at accepted
      split at accepted
      · cases accepted
      · simp_all
      · rename_i found
        rw [piece] at found
        cases found
        rw [read] at accepted
        cases accepted
        have first := readPiece_shorter piece
        have second := ih read
        omega

end PointRecords.Json
