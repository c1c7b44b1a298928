import Chip8.Player

/-!
# Settling

A run has settled when nothing but a command will change it any more: the player is not running,
or both timers have run out and the program waits for a key or stands on a jump to itself.
-/

namespace Chip8

namespace Machine

/-- Whether executing goes on without changing anything: an instruction waits for a key, or the
instruction at the counter is a jump to itself. -/
def isResting (machine : Machine) : Bool :=
  machine.keypad.awaiting.isSome ||
    match machine.fetch with
    | .ok (.jump target) => target.val == machine.counter.toNat
    | _ => false

/-- Whether both timers have run out. -/
def isQuiet (machine : Machine) : Bool :=
  machine.timers.delay == 0 && machine.timers.sound == 0

end Machine

namespace Player

/-- Whether instruction cycles change nothing any more. -/
def isResting (player : Player) : Bool :=
  match player.phase with
  | .running run => run.machine.isResting
  | _ => true

/-- Whether nothing but a command will change the run. -/
def isSettled (player : Player) : Bool :=
  match player.phase with
  | .running run => run.machine.isResting && run.machine.isQuiet
  | _ => true

/-- Instruction cycles until they change nothing any more, at most `limit`. -/
def cyclesUntilRest (player : Player) : Nat → Player
  | 0 => player
  | limit + 1 => if player.isResting then player else player.cycle.cyclesUntilRest limit

/-- The most instruction cycles between two timer ticks while a run settles. -/
def settlingBurst : Nat := 100

/-- Let a run settle: bursts of instruction cycles, and a timer tick behind each, at most `limit`
times. -/
def settle (player : Player) : Nat → Player
  | 0 => player
  | limit + 1 =>
      if player.isSettled then player
      else (player.cyclesUntilRest settlingBurst).tick.settle limit

end Player

end Chip8
