import Chip8.Decimal.Shortest
import Chip8.Settings

/-!
# Run times

A time in seconds is a floating-point number; its exact value is rounded to whole nanoseconds. A
time is usable if it is a number, not negative, and its whole seconds fit in 64 bits.
-/

namespace Chip8.CommandLine

open Decimal

/-- The whole nanoseconds of a number of seconds, if it is usable as a time. Minus zero counts as
zero. -/
def nanoseconds? : Binary64 → Option Nat
  | .finite negative significand exponent =>
      let (above, below) := Binary64.scaled significand 1 exponent
      if negative && significand != 0 then none
      else if UInt64.size * below ≤ above then none
      else some (roundedQuotient (above * second) below)
  | .infinite _ => none
  | .notANumber => none

/-- The report of a number of seconds that is not usable. -/
def unusableSecondsMessage (seconds : Binary64) : String :=
  seconds.text ++ " is not a usable number of seconds"

end Chip8.CommandLine
