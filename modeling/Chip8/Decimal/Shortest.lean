import Chip8.Decimal.Binary64

/-!
# Shortest decimals

A floating-point number is shown with the fewest digits that read back as the same number; of
several such decimals the nearest is taken, and of two equally near ones the greater. The digits
are always written out around a point and never with an exponent. All comparisons are exact.
-/

namespace Chip8.Decimal

/-- Some digits times a power of ten. -/
structure Numeral where
  digits : Nat
  exponent : Int
  deriving DecidableEq, Repr

/-- How `count * 10 ^ tens` compares with `amount * 2 ^ twos`. -/
def compareScaled (count : Nat) (tens : Int) (amount : Nat) (twos : Int) : Ordering :=
  compare (count * Nat.pow 10 tens.toNat * Nat.pow 2 (-twos).toNat)
    (amount * Nat.pow 2 twos.toNat * Nat.pow 10 (-tens).toNat)

/-- Whether a decimal lies among the numbers that round to `significand * 2 ^ exponent`. Their
interval reaches half way to the neighbours, and includes its ends if the significand is even. Below
a power of two the neighbour is only half as far away, except among the finest numbers. -/
def readsBack (significand : Nat) (exponent : Int) (numeral : Numeral) : Bool :=
  let narrow := significand == Binary64.significandLimit / 2 &&
    decide (Binary64.leastExponent < exponent)
  let lower := if narrow then 4 * significand - 1 else 4 * significand - 2
  let upper := 4 * significand + 2
  let inclusive := significand % 2 == 0
  let fromBelow := compareScaled numeral.digits numeral.exponent lower (exponent - 2)
  let fromAbove := compareScaled numeral.digits numeral.exponent upper (exponent - 2)
  (fromBelow == .gt || (inclusive && fromBelow == .eq)) &&
    (fromAbove == .lt || (inclusive && fromAbove == .eq))

/-- The whole part of `significand * 2 ^ exponent / 10 ^ tens`. -/
def wholeMultiple (significand : Nat) (exponent tens : Int) : Nat :=
  (significand * Nat.pow 2 exponent.toNat * Nat.pow 10 (-tens).toNat) /
    (Nat.pow 2 (-exponent).toNat * Nat.pow 10 tens.toNat)

/-- Whether the upper of two neighbouring multiples of `10 ^ tens` is at least as near to
`significand * 2 ^ exponent` as the lower one. -/
def upperIsNearer (significand : Nat) (exponent tens : Int) (lower : Nat) : Bool :=
  compareScaled (2 * lower + 1) tens (2 * significand) exponent != .gt

/-- The multiple of `10 ^ tens` that reads back, if there is one; the nearest if there are more. -/
def candidate? (significand : Nat) (exponent tens : Int) : Option Numeral :=
  let lower := wholeMultiple significand exponent tens
  let below : Numeral := ⟨lower, tens⟩
  let above : Numeral := ⟨lower + 1, tens⟩
  match readsBack significand exponent below, readsBack significand exponent above with
  | true, true => some (if upperIsNearer significand exponent tens lower then above else below)
  | true, false => some below
  | false, true => some above
  | false, false => none

/-- The first candidate at `tens` or at one of the next `count` smaller powers of ten. -/
def firstCandidate? (significand : Nat) (exponent tens : Int) : Nat → Option Numeral
  | 0 => candidate? significand exponent tens
  | count + 1 =>
      match candidate? significand exponent tens with
      | some numeral => some numeral
      | none => firstCandidate? significand exponent (tens - 1) count

/-- A power of ten that exceeds `significand * 2 ^ exponent`, by its exponent. -/
def decimalBound (significand : Nat) (exponent : Int) : Int :=
  let numerator := significand * Nat.pow 2 exponent.toNat
  let denominator := Nat.pow 2 (-exponent).toNat
  ((Nat.toDigits 10 numerator).length : Int) - (Nat.toDigits 10 denominator).length + 1

/-- The shortest decimal that reads back as a positive number. Seventeen digits always suffice, so
the search ends within the first few powers of ten below the bound. -/
def shortest (significand : Nat) (exponent : Int) : Numeral :=
  (firstCandidate? significand exponent (decimalBound significand exponent) 20).getD ⟨0, 0⟩

/-- A decimal written out around a point, without an exponent. -/
def Numeral.text (numeral : Numeral) : String :=
  let digits := Nat.toDigits 10 numeral.digits
  if 0 ≤ numeral.exponent then
    String.ofList (digits ++ List.replicate numeral.exponent.toNat '0')
  else
    let places := (-numeral.exponent).toNat
    let padded := List.replicate (places + 1 - digits.length) '0' ++ digits
    let whole := padded.length - places
    String.ofList (padded.take whole ++ '.' :: padded.drop whole)

/-- A floating-point number as it is shown. -/
def Binary64.text : Binary64 → String
  | .notANumber => "NaN"
  | .infinite negative => (if negative then "-" else "") ++ "inf"
  | .finite negative significand exponent =>
      let magnitude := if significand = 0 then "0" else (shortest significand exponent).text
      (if negative then "-" else "") ++ magnitude

example : (Binary64.ofDecimal true 123456 (-3)).text = "-123.456" := by decide +kernel
example : (Binary64.ofDecimal false 18446744073709551615 0).text = "18446744073709552000" := by
  decide +kernel
example : (Binary64.ofDecimal false 1 23).text = "100000000000000000000000" := by decide +kernel

end Chip8.Decimal
