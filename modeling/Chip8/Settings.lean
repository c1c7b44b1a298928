import Chip8.Timers

/-!
# Settings

How fast a run goes and where its random numbers come from.
-/

namespace Chip8

/-- The nanoseconds of a second. -/
def second : Nat := 1000000000

/-- Settings of a run. -/
structure Settings where
  instructionsPerSecond : UInt32
  /-- The seed of the random words; without one every run gets a fresh seed. -/
  seed : Option UInt64
  deriving DecidableEq, Repr

namespace Settings

/-- The rate when none is asked for. -/
def defaultRate : UInt32 := 700

/-- The highest rate. -/
def maxRate : Nat := 1000000

/-- The rate that is used: at least one instruction per second, at most `maxRate`. -/
def effectiveRate (settings : Settings) : Nat :=
  min (max settings.instructionsPerSecond.toNat 1) maxRate

/-- The whole nanoseconds between two instruction cycles. -/
def instructionPeriod (settings : Settings) : Nat :=
  second / settings.effectiveRate

/-- The whole nanoseconds between two timer ticks. -/
def timerPeriod (_settings : Settings) : Nat :=
  second / timerRate

/-- The seed of a run that starts now: the fixed one, or else the fresh one. -/
def seedFor (settings : Settings) (fresh : UInt64) : UInt64 :=
  settings.seed.getD fresh

end Settings

end Chip8
