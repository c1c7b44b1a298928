import Chip8.Text.Hex
import Chip8.Text.Unpictured

/-!
# Quoted text

A text between double quotes in which the quote and the backslash are written behind a backslash,
four control characters by a letter, and every other character without a picture of its own by the
hexadecimal number of its code point.
-/

namespace Chip8.Text

/-- A character as it is written between quotes. -/
def quotedChar (character : Char) : List Char :=
  match character with
  | '"' => ['\\', '"']
  | '\\' => ['\\', '\\']
  | '\x00' => ['\\', '0']
  | '\t' => ['\\', 't']
  | '\r' => ['\\', 'r']
  | '\n' => ['\\', 'n']
  | other =>
      if isUnpictured other then
        ['\\', 'u', '\x7b'] ++ hexDigits other.toNat ++ ['\x7d']
      else [other]

/-- A text between double quotes. -/
def quoted (text : String) : String :=
  String.ofList ('"' :: text.toList.flatMap quotedChar ++ ['"'])

end Chip8.Text
