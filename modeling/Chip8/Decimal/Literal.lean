import Chip8.Decimal.Binary64

/-!
# Number literals

How numbers are written on a command line. Whole numbers are digits behind an optional plus sign.
Floating-point numbers are digits with an optional point, of which either side may be missing, an
optional sign in front and an optional exponent behind; or the words for infinity and for what is
not a number, in capital or small letters.
-/

namespace Chip8.Decimal

/-- The value of a decimal digit. -/
def digitValue (character : Char) : Nat :=
  character.toNat - '0'.toNat

/-- The number that digits stand for. -/
def valueOf (digits : List Char) : Nat :=
  digits.foldl (fun value digit => value * 10 + digitValue digit) 0

/-- Digits from the front of a text, and the rest. -/
def spanDigits (text : List Char) : List Char × List Char :=
  text.span Char.isDigit

/-- A whole number below a limit. -/
def natural? (limit : Nat) (text : List Char) : Option Nat :=
  let digits := match text with
    | '+' :: rest => rest
    | other => other
  if digits.isEmpty || !digits.all Char.isDigit then none
  else
    let value := valueOf digits
    if value < limit then some value else none

/-- A text without its sign, and whether the sign was a minus. -/
def takeSign (text : List Char) : Bool × List Char :=
  match text with
  | '-' :: rest => (true, rest)
  | '+' :: rest => (false, rest)
  | other => (false, other)

/-- The exponent at the end of a number; no text at all stands for zero. -/
def exponent? (text : List Char) : Option Int :=
  match text with
  | [] => some 0
  | mark :: rest =>
      if mark == 'e' || mark == 'E' then
        let (negative, digits) := takeSign rest
        if digits.isEmpty || !digits.all Char.isDigit then none
        else
          let value : Int := valueOf digits
          some (if negative then -value else value)
      else none

/-- A number without a sign, written with digits. -/
def unsigned? (negative : Bool) (text : List Char) : Option Binary64 :=
  let (whole, rest) := spanDigits text
  let (fraction, rest) := match rest with
    | '.' :: behind => spanDigits behind
    | other => ([], other)
  if whole.isEmpty && fraction.isEmpty then none
  else
    (exponent? rest).map fun exponent =>
      Binary64.ofDecimal negative (valueOf (whole ++ fraction)) (exponent - fraction.length)

/-- A floating-point number. -/
def binary64? (text : List Char) : Option Binary64 :=
  let (negative, body) := takeSign text
  let word := String.ofList (body.map Char.toLower)
  if word == "inf" || word == "infinity" then some (.infinite negative)
  else if word == "nan" then some .notANumber
  else unsigned? negative body

example : binary64? "-2.5E1".toList = some (.finite true 7036874417766400 (-48)) := by decide +kernel
example : (binary64? ".5".toList).isSome && (binary64? "5.".toList).isSome := by decide +kernel
example : binary64? ".".toList = none ∧ binary64? "1e".toList = none := by decide +kernel

end Chip8.Decimal
