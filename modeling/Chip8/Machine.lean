import Chip8.Keypad
import Chip8.Opcode
import Chip8.RandomWords
import Chip8.Registers
import Chip8.Screen
import Chip8.Timers

/-!
# The machine

All state of one run, and what reaches it from outside: keys, timer ticks, and a stored state that
takes its place. Executing instructions is the subject of `Chip8.Machine.Execution`.
-/

namespace Chip8

/-- The state of one run. -/
structure Machine where
  memory : Memory
  registers : Registers
  timers : Timers
  /-- The latch of the keypad waits on behalf of a register. -/
  keypad : Keypad Register
  screen : Screen
  random : RandomWords
  /-- The keys that the program has asked for by name. -/
  tested : KeySet
  /-- Whether the screen may differ from what was last taken from it. -/
  screenChanged : Bool
  deriving DecidableEq

namespace Machine

/-- A machine with a program image in memory and everything else at rest. The screen counts as
changed, since nobody has seen it yet. -/
def boot (image : List UInt8) (seed : UInt64) : Machine where
  memory := .ofImage image
  registers := .initial
  timers := .stopped
  keypad := .idle
  screen := .blank
  random := .ofSeed seed
  tested := .empty
  screenChanged := true

/-- The value of a general-purpose register. -/
def reg (machine : Machine) (x : Register) : UInt8 :=
  machine.registers.get x

/-- The address of the next instruction. -/
def counter (machine : Machine) : UInt16 :=
  machine.registers.counter

/-- The address register of memory instructions. -/
def index (machine : Machine) : UInt16 :=
  machine.registers.index

/-- Change a general-purpose register. -/
def setReg (machine : Machine) (x : Register) (value : UInt8) : Machine :=
  { machine with registers := machine.registers.set x value }

/-- Continue at an address. -/
def goto (machine : Machine) (address : UInt16) : Machine :=
  { machine with registers := { machine.registers with counter := address } }

/-- Continue behind the next instruction. -/
def advance (machine : Machine) : Machine :=
  machine.goto (machine.counter + 2)

/-- Change the address register of memory instructions. -/
def setIndex (machine : Machine) (address : UInt16) : Machine :=
  { machine with registers := { machine.registers with index := address } }

/-- Hold a key. A waiting instruction is completed: its register receives the code of the key and
the machine continues behind it. -/
def press (machine : Machine) (key : Key) : Machine :=
  let pressed := { machine with keypad := machine.keypad.press key }
  match machine.keypad.awaiting with
  | some x => (pressed.setReg x key.byte).advance
  | none => pressed

/-- Let a key go. -/
def release (machine : Machine) (key : Key) : Machine :=
  { machine with keypad := machine.keypad.release key }

/-- One tick of the timers. -/
def tick (machine : Machine) : Machine :=
  { machine with timers := machine.timers.tick }

/-- Take note of the screen: it no longer counts as changed. -/
def acknowledgeScreen (machine : Machine) : Machine :=
  { machine with screenChanged := false }

/-- Take over a stored state. The screen counts as changed. -/
def restore (_machine stored : Machine) : Machine :=
  { stored with screenChanged := true }

/-- The keys that matter to the program now: all of them while an instruction waits for one, and
otherwise those it has asked for by name. -/
def requiredKeys (machine : Machine) : List Key :=
  if machine.keypad.awaiting.isSome then Key.all else machine.tested.toList

/-- Whether two machines are in the same state, the note on the screen apart. Of the random words
only the next two are compared. -/
def agrees (left right : Machine) : Bool :=
  left.memory == right.memory && left.registers == right.registers &&
    left.timers == right.timers && left.keypad == right.keypad &&
    left.screen == right.screen && left.tested == right.tested &&
    left.random.peek 2 == right.random.peek 2

end Machine

end Chip8
