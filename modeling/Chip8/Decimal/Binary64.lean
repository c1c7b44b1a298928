import Chip8.Decimal.Rounding

/-!
# Binary floating-point numbers

The numbers of the 64-bit binary format as exact values: a whole significand of at most 53 bits
times a power of two, apart from the infinities and the number that is none. A quotient of whole
numbers is rounded to the nearest of them, ties to the even significand.
-/

namespace Chip8.Decimal

/-- A number of the 64-bit binary format. -/
inductive Binary64 where
  /-- The significand times the power of two. -/
  | finite (negative : Bool) (significand : Nat) (exponent : Int)
  | infinite (negative : Bool)
  | notANumber
  deriving DecidableEq, Repr

namespace Binary64

/-- The exponent of the finest finite numbers. -/
def leastExponent : Int := -1074

/-- The least exponent at which no significand is finite any more. -/
def exponentLimit : Int := 972

/-- The least number with more bits than a significand has. -/
def significandLimit : Nat := 9007199254740992

/-- A quotient times a power of two, as a quotient. -/
def scaled (numerator denominator : Nat) (exponent : Int) : Nat × Nat :=
  if 0 ≤ exponent then (numerator * Nat.pow 2 exponent.toNat, denominator)
  else (numerator, denominator * Nat.pow 2 (-exponent).toNat)

/-- The exponent of the greatest power of two that does not exceed a quotient. -/
def binaryExponent (numerator denominator : Nat) : Int :=
  let estimate : Int := (Nat.log2 numerator : Int) - (Nat.log2 denominator : Int)
  let (above, below) := scaled numerator denominator (-estimate)
  if below ≤ above then estimate else estimate - 1

/-- The number nearest to a quotient of two positive numbers. -/
def ofQuotient (negative : Bool) (numerator denominator : Nat) : Binary64 :=
  let exponent := max (binaryExponent numerator denominator - 52) leastExponent
  let (above, below) := scaled numerator denominator (-exponent)
  let significand := roundedQuotient above below
  let (significand, exponent) :=
    if significand = significandLimit then (significandLimit / 2, exponent + 1)
    else (significand, exponent)
  if exponentLimit ≤ exponent then .infinite negative
  else .finite negative significand exponent

/-- The decimal exponent from which on every number is infinite. -/
def decimalCeiling : Int := 310

/-- The decimal exponent up to which every number is zero. -/
def decimalFloor : Int := -330

/-- The number nearest to some digits times a power of ten. -/
def ofDecimal (negative : Bool) (digits : Nat) (exponent : Int) : Binary64 :=
  let magnitude : Int := (Nat.toDigits 10 digits).length + exponent
  if digits = 0 ∨ magnitude ≤ decimalFloor then .finite negative 0 leastExponent
  else if decimalCeiling ≤ magnitude then .infinite negative
  else if 0 ≤ exponent then ofQuotient negative (digits * Nat.pow 10 exponent.toNat) 1
  else ofQuotient negative digits (Nat.pow 10 (-exponent).toNat)

example : ofDecimal false 1 (-1) = .finite false 7205759403792794 (-56) := by decide +kernel
example : ofDecimal false 5 (-324) = .finite false 1 (-1074) := by decide +kernel
example : ofDecimal false 1 400 = .infinite false := by decide +kernel
example : ofDecimal true 18446744073709551615 0 = .finite true 4503599627370496 12 := by decide +kernel

end Binary64

end Chip8.Decimal
