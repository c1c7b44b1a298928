/-!
# Hexadecimal numerals

Lower-case hexadecimal, padded on the left to a least number of digits. Addresses, opcodes and
digests are written this way.
-/

namespace Chip8.Text

/-- The lower-case hexadecimal digits of a number, most significant first; zero has one digit. -/
def hexDigits (value : Nat) : List Char :=
  Nat.toDigits 16 value

/-- A number in lower-case hexadecimal with at least `width` digits. -/
def hex (width value : Nat) : String :=
  let digits := hexDigits value
  String.ofList (List.replicate (width - digits.length) '0' ++ digits)

/-- A number in hexadecimal with at least `width` digits behind `0x`. -/
def hexLiteral (width value : Nat) : String :=
  "0x" ++ hex width value

/-- Two hexadecimal digits for each byte, in order. -/
def hexBytes (bytes : List UInt8) : String :=
  String.join (bytes.map fun byte => hex 2 byte.toNat)

example : hex 4 0x200 = "0200" := by decide
example : hexLiteral 3 0x1000 = "0x1000" := by decide

end Chip8.Text
