import Chip8.Machine

/-!
# Executing instructions

One step of a machine fetches the word at the counter, finds out whether the instruction can be
executed, and only then executes it. `Machine.obstacle?` knows all reasons against and
`Machine.perform` all effects, so a step that reports a fault leaves the machine as it was.
-/

namespace Chip8

/-- What one step came to. -/
inductive Outcome where
  | executed (instruction : Instruction)
  /-- Nothing was executed because an instruction still waits for a key. -/
  | waiting
  /-- The instruction at the counter cannot be executed. -/
  | faulted (fault : Fault)
  deriving DecidableEq, Repr

/-- The number of bytes that an instruction touches from the index on. -/
def Instruction.touched : Instruction → Nat
  | .draw _ _ height => height.val
  | .storeDecimal _ => 3
  | .storeRegisters x => x.val + 1
  | .loadRegisters x => x.val + 1
  | _ => 0

/-- Whether an instruction deals with keys, so that it can change which keys matter. -/
def Instruction.consultsKeys : Instruction → Bool
  | .skipIfPressed _ => true
  | .skipUnlessPressed _ => true
  | .waitForKey _ => true
  | _ => false

/-- One for true and zero for false, as a flag shows it. -/
def flagOf (condition : Bool) : UInt8 :=
  if condition then 1 else 0

/-- The three decimal digits of a byte, hundreds first. -/
def decimalDigits (value : UInt8) : List UInt8 :=
  [value / 100, value / 10 % 10, value % 10]

namespace Machine

/-- The instruction at the counter, or the fault of a counter that leads to none. -/
def fetch (machine : Machine) : Except Fault Instruction :=
  let address := machine.counter.toNat
  match machine.memory.read address, machine.memory.read (address + 1) with
  | .error fault, _ => .error fault
  | .ok _, .error fault => .error fault
  | .ok high, .ok low =>
      let opcode := Opcode.ofBytes high low
      match opcode.decode with
      | some instruction => .ok instruction
      | none => .error (.invalidOpcode opcode.word machine.counter)

/-- Why an instruction at the counter cannot be executed, if it cannot: a return without a call, a
call too deep, or a range that leaves memory. -/
def obstacle? (machine : Machine) (instruction : Instruction) : Option Fault :=
  match instruction with
  | .ret =>
      if machine.registers.stack.depth = 0 then some (.stackUnderflow machine.counter) else none
  | .call _ =>
      if machine.registers.stack.depth = stackSize then some (.stackOverflow machine.counter)
      else none
  | _ => Memory.rangeFault? machine.index.toNat instruction.touched

/-- Continue behind the next instruction if a condition holds. -/
def skipIf (machine : Machine) (condition : Bool) : Machine :=
  if condition then machine.advance else machine

/-- Change a register and then the flag, which wins if the register is the flag. -/
def setWithFlag (machine : Machine) (x : Register) (value : UInt8) (condition : Bool) : Machine :=
  (machine.setReg x value).setReg flag (flagOf condition)

/-- Whether the key with a code is held. A code without a key counts as not held. -/
def holds (machine : Machine) (code : UInt8) : Bool :=
  ((Key.ofCode? code.toNat).map machine.keypad.isHeld).getD false

/-- Remember that the program asked for the key with a code, if there is such a key. -/
def noteTest (machine : Machine) (code : UInt8) : Machine :=
  match Key.ofCode? code.toNat with
  | some key => { machine with tested := machine.tested.insert key }
  | none => machine

/-- Continue behind the latest call. -/
def leave (machine : Machine) : Machine :=
  match machine.registers.stack.pop? with
  | some (address, stack) =>
      { machine with registers := { machine.registers with stack, counter := address } }
  | none => machine

/-- Remember where to continue, and continue elsewhere. -/
def enter (machine : Machine) (target : UInt16) : Machine :=
  match machine.registers.stack.push? machine.counter with
  | some stack =>
      { machine with registers := { machine.registers with stack, counter := target } }
  | none => machine

/-- Draw the sprite at the index with its corner at the coordinates held in two registers. -/
def drawSprite (machine : Machine) (x y : Register) (height : Nat) : Machine :=
  let sprite := machine.memory.range machine.index.toNat height
  let (collided, screen) :=
    machine.screen.draw (machine.reg x).toNat (machine.reg y).toNat sprite
  { machine with screen, screenChanged := true }.setReg flag (flagOf collided)

/-- Store bytes from the index on. -/
def storeAtIndex (machine : Machine) (values : List UInt8) : Machine :=
  { machine with memory := machine.memory.store machine.index.toNat values }

/-- Load the registers up to and including one from the index on. -/
def loadFromIndex (machine : Machine) (x : Register) : Machine :=
  let values := machine.memory.range machine.index.toNat (x.val + 1)
  { machine with registers := machine.registers.setAll values }

/-- The effect of an instruction on a machine whose counter is already behind it. Subtractions set
the flag if nothing had to be borrowed. -/
def effect (machine : Machine) : Instruction → Machine
  | .clearScreen => { machine with screen := .blank, screenChanged := true }
  | .ret => machine.leave
  | .jump target => machine.goto (UInt16.ofNat target.val)
  | .call target => machine.enter (UInt16.ofNat target.val)
  | .skipIfConstant x n => machine.skipIf (machine.reg x == n)
  | .skipUnlessConstant x n => machine.skipIf (machine.reg x != n)
  | .skipIfSame x y => machine.skipIf (machine.reg x == machine.reg y)
  | .skipUnlessSame x y => machine.skipIf (machine.reg x != machine.reg y)
  | .setConstant x n => machine.setReg x n
  | .addConstant x n => machine.setReg x (machine.reg x + n)
  | .copy x y => machine.setReg x (machine.reg y)
  | .bitOr x y => machine.setReg x (machine.reg x ||| machine.reg y)
  | .bitAnd x y => machine.setReg x (machine.reg x &&& machine.reg y)
  | .bitXor x y => machine.setReg x (machine.reg x ^^^ machine.reg y)
  | .add x y =>
      machine.setWithFlag x (machine.reg x + machine.reg y)
        (decide (256 ≤ (machine.reg x).toNat + (machine.reg y).toNat))
  | .subtract x y =>
      machine.setWithFlag x (machine.reg x - machine.reg y)
        (decide (machine.reg y ≤ machine.reg x))
  | .subtractFrom x y =>
      machine.setWithFlag x (machine.reg y - machine.reg x)
        (decide (machine.reg x ≤ machine.reg y))
  | .shiftRight x =>
      machine.setWithFlag x (machine.reg x / 2) (decide ((machine.reg x).toNat % 2 = 1))
  | .shiftLeft x =>
      machine.setWithFlag x (machine.reg x * 2) (decide (128 ≤ (machine.reg x).toNat))
  | .setIndex target => machine.setIndex (UInt16.ofNat target.val)
  | .jumpOffset target =>
      machine.goto (UInt16.ofNat target.val + (machine.reg offset).toUInt16)
  | .random x mask =>
      { machine with random := machine.random.tail }.setReg x
        (machine.random.head.toUInt8 &&& mask)
  | .draw x y height => machine.drawSprite x y height.val
  | .skipIfPressed x =>
      (machine.noteTest (machine.reg x)).skipIf (machine.holds (machine.reg x))
  | .skipUnlessPressed x =>
      (machine.noteTest (machine.reg x)).skipIf (!machine.holds (machine.reg x))
  | .readDelay x => machine.setReg x machine.timers.delay
  | .waitForKey x =>
      { machine with keypad := machine.keypad.await x }.goto (machine.counter - 2)
  | .setDelay x => { machine with timers := { machine.timers with delay := machine.reg x } }
  | .setSound x => { machine with timers := { machine.timers with sound := machine.reg x } }
  | .addToIndex x => machine.setIndex (machine.index + (machine.reg x).toUInt16)
  | .indexGlyph x =>
      machine.setIndex (UInt16.ofNat ((machine.reg x).toNat % 16 * glyphSize))
  | .storeDecimal x => machine.storeAtIndex (decimalDigits (machine.reg x))
  | .storeRegisters x => machine.storeAtIndex (machine.registers.upTo x)
  | .loadRegisters x => machine.loadFromIndex x

/-- Execute an instruction at the counter. Nothing stands in its way if `obstacle?` is `none`. -/
def perform (machine : Machine) (instruction : Instruction) : Machine :=
  machine.advance.effect instruction

/-- Fetch and execute one instruction, unless one still waits for a key. -/
def step (machine : Machine) : Outcome × Machine :=
  if machine.keypad.awaiting.isSome then (.waiting, machine)
  else
    match machine.fetch with
    | .error fault => (.faulted fault, machine)
    | .ok instruction =>
        match machine.obstacle? instruction with
        | some fault => (.faulted fault, machine)
        | none => (.executed instruction, machine.perform instruction)

/-- A step that does not execute an instruction leaves the machine as it was. -/
theorem step_unchanged {machine : Machine}
    (idle : ∀ instruction, machine.step.1 ≠ .executed instruction) :
    machine.step.2 = machine := by
  revert idle
  simp only [step]
  split
  · simp
  · split
    · simp
    · split <;> simp

end Machine

end Chip8
