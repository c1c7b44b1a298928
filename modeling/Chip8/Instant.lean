/-!
# Instants

An instant is a number of nanoseconds since a common origin. A clock counts its whole seconds in a
signed word of 64 bits, so there are instants that no clock can hold, and to add a duration to an
instant may fail.
-/

namespace Chip8

/-- The first instant that no clock can hold: `2 ^ 63` seconds after the origin. -/
def instantEnd : Nat := 0x8000000000000000 * 1000000000

/-- The instant that comes a duration after another, if a clock can hold it. -/
def instantAfter? (instant duration : Nat) : Option Nat :=
  if instant + duration < instantEnd then some (instant + duration) else none

end Chip8
