import Chip8.Key
import Chip8.Text.Blank
import Chip8.Text.Quoted

/-!
# Key lists

A list of keys written as text: hexadecimal numbers between commas. White space around a number
and fields without one are skipped. A number may have leading zeros and a plus sign; what counts is
that its value is the code of a key.
-/

namespace Chip8.CommandLine

/-- The fields of a text between its commas, in order. -/
def commaFields : List Char → List (List Char)
  | [] => [[]]
  | character :: rest =>
      if character = ',' then [] :: commaFields rest
      else
        match commaFields rest with
        | field :: fields => (character :: field) :: fields
        | [] => [[character]]

/-- The value of a hexadecimal digit in either case. -/
def hexDigitValue? (character : Char) : Option Nat :=
  if '0' ≤ character && character ≤ '9' then some (character.toNat - '0'.toNat)
  else if 'a' ≤ character && character ≤ 'f' then some (character.toNat - 'a'.toNat + 10)
  else if 'A' ≤ character && character ≤ 'F' then some (character.toNat - 'A'.toNat + 10)
  else none

/-- The number that hexadecimal digits stand for, behind the value of the digits before them. -/
def hexValue? (value : Nat) : List Char → Option Nat
  | [] => some value
  | character :: rest => do
      let digit ← hexDigitValue? character
      hexValue? (value * 16 + digit) rest

/-- A hexadecimal number: at least one digit, behind an optional plus sign. -/
def hexNumber? (field : List Char) : Option Nat :=
  let digits := match field with
    | '+' :: rest => rest
    | other => other
  if digits.isEmpty then none else hexValue? 0 digits

/-- The key of a field without blanks around it, or the field itself if it names none. -/
def keyOfField (field : List Char) : Except (List Char) Key :=
  match (hexNumber? field).bind Key.ofCode? with
  | some key => .ok key
  | none => .error field

/-- The fields of a text that name something. -/
def namingFields (text : List Char) : List (List Char) :=
  ((commaFields text).map Text.trimmed).filter fun field => !field.isEmpty

/-- The keys of a text in order, or the first field that names none. -/
def keyList (text : List Char) : Except (List Char) (List Key) :=
  (namingFields text).mapM keyOfField

/-- The report of a field that names no key. -/
def noKeyMessage (field : List Char) : String :=
  Text.quoted (String.ofList field) ++ " is not a hex key"

@[simp] theorem commaFields_ne_nil (text : List Char) : commaFields text ≠ [] := by
  cases text with
  | nil => simp [commaFields]
  | cons character rest =>
      simp only [commaFields]
      split
      · simp
      · split <;> simp

/-- A comma between two texts separates their fields. -/
theorem commaFields_append_comma (left right : List Char) :
    commaFields (left ++ ',' :: right) = commaFields left ++ commaFields right := by
  induction left with
  | nil => simp [commaFields]
  | cons character rest ih =>
      simp only [List.cons_append, commaFields, ih]
      split
      · simp
      · cases fields : commaFields rest with
        | nil => exact absurd fields (commaFields_ne_nil rest)
        | cons field more => simp

end Chip8.CommandLine
