import PointRecords.Text.Hexadecimal
import PointRecords.Text.Invisible

/-!
# Quoted texts

A text is quoted by putting it between quotation marks and escaping, inside
them, the quotation mark, the backslash and every character that would not be
seen.
-/

namespace PointRecords.Text

/-- A character as it stands between quotation marks. -/
def quoteChar (character : Char) : List Char :=
  match character with
  | '\x00' => ['\\', '0']
  | '\t' => ['\\', 't']
  | '\r' => ['\\', 'r']
  | '\n' => ['\\', 'n']
  | '"' => ['\\', '"']
  | '\\' => ['\\', '\\']
  | _ =>
      if isInvisible character then
        ['\\', 'u', '\x7b'] ++ hexadecimal character.toNat ++ ['\x7d']
      else [character]

def quoted (text : String) : String :=
  String.ofList ('"' :: (text.toList.flatMap quoteChar ++ ['"']))

end PointRecords.Text
