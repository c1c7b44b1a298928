/-!
# Rounding quotients

The whole number nearest to a quotient; of two equally near ones the even one.
-/

namespace Chip8.Decimal

/-- The whole number nearest to a quotient, ties to even. -/
def roundedQuotient (numerator denominator : Nat) : Nat :=
  let quotient := numerator / denominator
  let twiceRest := 2 * (numerator % denominator)
  if twiceRest < denominator then quotient
  else if denominator < twiceRest then quotient + 1
  else if quotient % 2 = 0 then quotient
  else quotient + 1

end Chip8.Decimal
