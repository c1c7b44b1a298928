import Chip8.Memory.Span
import Chip8.Proofs.Machine.Bounds

/-!
# Execution that checks every sum and every place

`Machine.step` forms its sums in words that wrap, and takes it from types that its registers and
stack slots exist. Guarded execution carries out the same instructions one operation at a time and
stops at the first that is not safe: a sum that does not fit in its word, a place that does not
exist, or a write that is refused after its range had been accepted.
`InBounds.guardedStep_eq` says that within the bounds of `Machine.InBounds` nothing but a fault
stops it, and that it comes to what `Machine.step` comes to.
-/

namespace Chip8

/-- Why a guarded operation stops. -/
inductive Stop where
  /-- The instruction cannot be executed. This is no defect of the machine. -/
  | fault (fault : Fault)
  /-- A sum does not fit in its word. -/
  | overflow
  /-- No register or stack slot has the number. -/
  | noSuchPlace
  /-- A write was refused although its range had been accepted. -/
  | refusedWrite (fault : Fault)
  deriving DecidableEq, Repr

/-- A result, or why there is none. -/
abbrev Guarded (α : Type) := Except Stop α

/-- A sum that has to stay below a limit. -/
def sumBelow (limit left right : Nat) : Guarded Nat :=
  if left + right < limit then .ok (left + right) else .error .overflow

/-- Write values one by one from `start + offset` on, after their range was accepted. -/
def Memory.guardedWrites (memory : Memory) (start offset : Nat) : List UInt8 → Guarded Memory
  | [] => .ok memory
  | value :: rest => do
      let place ← sumBelow UInt64.size start offset
      match memory.write place value with
      | .ok written => written.guardedWrites start (offset + 1) rest
      | .error fault => .error (.refusedWrite fault)

namespace Machine

/-- `advance`, with the sum checked. -/
def guardedAdvance (machine : Machine) : Guarded Machine := do
  let address ← sumBelow UInt16.size machine.counter.toNat 2
  return machine.goto (UInt16.ofNat address)

/-- `skipIf`, with the sum checked. -/
def guardedSkipIf (machine : Machine) (condition : Bool) : Guarded Machine :=
  if condition then machine.guardedAdvance else return machine

/-- The value of the register with a number. -/
def guardedReg (machine : Machine) (number : Nat) : Guarded UInt8 :=
  match machine.registers.general[number]? with
  | some value => .ok value
  | none => .error .noSuchPlace

/-- Change the register with a number. -/
def guardedSetReg (machine : Machine) (number : Nat) (value : UInt8) : Guarded Machine :=
  if bound : number < 16 then .ok (machine.setReg ⟨number, bound⟩ value)
  else .error .noSuchPlace

/-- `setWithFlag` on the register with a number. -/
def guardedSetWithFlag (machine : Machine) (number : Nat) (value : UInt8) (condition : Bool) :
    Guarded Machine := do
  (← machine.guardedSetReg number value).guardedSetReg flag.val (flagOf condition)

/-- Continue behind the latest call, whose address is read from the slot that the pop frees. -/
def guardedLeave (machine : Machine) (site : UInt16) : Guarded Machine :=
  match machine.registers.stack.pop? with
  | none => .error (.fault (.stackUnderflow site))
  | some (_, stack) =>
      match stack.slots[stack.depth]? with
      | none => .error .noSuchPlace
      | some address =>
          .ok { machine with registers := { machine.registers with stack, counter := address } }

/-- Remember where to continue, counting the live slots in a byte. -/
def guardedEnter (machine : Machine) (site target : UInt16) : Guarded Machine :=
  match machine.registers.stack.push? machine.counter with
  | none => .error (.fault (.stackOverflow site))
  | some stack => do
      let _ ← sumBelow UInt8.size machine.registers.stack.depth 1
      return { machine with registers := { machine.registers with stack, counter := target } }

/-- The bytes of a range from the index on, its end computed in a 64-bit word. -/
def guardedSlice (machine : Machine) (length : Nat) : Guarded (List UInt8) :=
  match machine.memory.sliceSpan (UInt64.ofNat machine.index.toNat) (UInt64.ofNat length) with
  | .ok bytes => .ok bytes
  | .error .endOverflow => .error .overflow
  | .error (.fault fault) => .error (.fault fault)

/-- Accept the range from the index on, and then write it byte by byte. -/
def guardedStore (machine : Machine) (values : List UInt8) : Guarded Machine := do
  let _ ← machine.guardedSlice values.length
  let memory ← machine.memory.guardedWrites machine.index.toNat 0 values
  return { machine with memory }

/-- The values of the first registers. -/
def guardedFirst (machine : Machine) (count : Nat) : Guarded (List UInt8) :=
  if count ≤ 16 then .ok (machine.registers.general.toList.take count) else .error .noSuchPlace

/-- Load the first registers from a range that has to have their number of bytes. -/
def guardedLoad (machine : Machine) (count : Nat) : Guarded Machine := do
  let values ← machine.guardedSlice count
  if count ≤ 16 ∧ values.length = count then
    return { machine with registers := machine.registers.setAll values }
  else .error .noSuchPlace

/-- Draw the sprite at the index, with the sums of its last column and row checked. -/
def guardedDraw (machine : Machine) (x y height : Nat) : Guarded Machine := do
  let left ← machine.guardedReg x
  let top ← machine.guardedReg y
  let sprite ← machine.guardedSlice height
  let _ ← sumBelow UInt64.size left.toNat 7
  let _ ← sumBelow UInt64.size top.toNat height
  let drawn := machine.screen.draw left.toNat top.toNat sprite
  { machine with screen := drawn.2, screenChanged := true }.guardedSetReg flag.val
    (flagOf drawn.1)

/-- `effect`, with every sum and every place checked, for an instruction fetched from `site`. -/
def guardedEffect (machine : Machine) (site : UInt16) : Instruction → Guarded Machine
  | .clearScreen => return { machine with screen := .blank, screenChanged := true }
  | .ret => machine.guardedLeave site
  | .jump target => return machine.goto (UInt16.ofNat target.val)
  | .call target => machine.guardedEnter site (UInt16.ofNat target.val)
  | .skipIfConstant x n => do machine.guardedSkipIf ((← machine.guardedReg x.val) == n)
  | .skipUnlessConstant x n => do machine.guardedSkipIf ((← machine.guardedReg x.val) != n)
  | .skipIfSame x y => do
      machine.guardedSkipIf ((← machine.guardedReg x.val) == (← machine.guardedReg y.val))
  | .skipUnlessSame x y => do
      machine.guardedSkipIf ((← machine.guardedReg x.val) != (← machine.guardedReg y.val))
  | .setConstant x n => machine.guardedSetReg x.val n
  | .addConstant x n => do machine.guardedSetReg x.val ((← machine.guardedReg x.val) + n)
  | .copy x y => do machine.guardedSetReg x.val (← machine.guardedReg y.val)
  | .bitOr x y => do
      machine.guardedSetReg x.val ((← machine.guardedReg x.val) ||| (← machine.guardedReg y.val))
  | .bitAnd x y => do
      machine.guardedSetReg x.val ((← machine.guardedReg x.val) &&& (← machine.guardedReg y.val))
  | .bitXor x y => do
      machine.guardedSetReg x.val ((← machine.guardedReg x.val) ^^^ (← machine.guardedReg y.val))
  | .add x y => do
      let (left, right) := (← machine.guardedReg x.val, ← machine.guardedReg y.val)
      machine.guardedSetWithFlag x.val (left + right)
        (decide (256 ≤ left.toNat + right.toNat))
  | .subtract x y => do
      let (left, right) := (← machine.guardedReg x.val, ← machine.guardedReg y.val)
      machine.guardedSetWithFlag x.val (left - right) (decide (right ≤ left))
  | .subtractFrom x y => do
      let (left, right) := (← machine.guardedReg x.val, ← machine.guardedReg y.val)
      machine.guardedSetWithFlag x.val (right - left) (decide (left ≤ right))
  | .shiftRight x => do
      let value ← machine.guardedReg x.val
      machine.guardedSetWithFlag x.val (value / 2) (decide (value.toNat % 2 = 1))
  | .shiftLeft x => do
      let value ← machine.guardedReg x.val
      machine.guardedSetWithFlag x.val (value * 2) (decide (128 ≤ value.toNat))
  | .setIndex target => return machine.setIndex (UInt16.ofNat target.val)
  | .jumpOffset target => do
      let address ← sumBelow UInt16.size target.val (← machine.guardedReg offset.val).toNat
      return machine.goto (UInt16.ofNat address)
  | .random x mask =>
      { machine with random := machine.random.tail }.guardedSetReg x.val
        (machine.random.head.toUInt8 &&& mask)
  | .draw x y height => machine.guardedDraw x.val y.val height.val
  | .skipIfPressed x => do
      let code ← machine.guardedReg x.val
      (machine.noteTest code).guardedSkipIf (machine.holds code)
  | .skipUnlessPressed x => do
      let code ← machine.guardedReg x.val
      (machine.noteTest code).guardedSkipIf (!machine.holds code)
  | .readDelay x => machine.guardedSetReg x.val machine.timers.delay
  | .waitForKey x => return { machine with keypad := machine.keypad.await x }.goto site
  | .setDelay x => do
      let value ← machine.guardedReg x.val
      return { machine with timers := { machine.timers with delay := value } }
  | .setSound x => do
      let value ← machine.guardedReg x.val
      return { machine with timers := { machine.timers with sound := value } }
  | .addToIndex x => do
      return machine.setIndex (machine.index + (← machine.guardedReg x.val).toUInt16)
  | .indexGlyph x => do
      let value ← machine.guardedReg x.val
      return machine.setIndex (UInt16.ofNat (value.toNat % 16 * glyphSize))
  | .storeDecimal x => do machine.guardedStore (decimalDigits (← machine.guardedReg x.val))
  | .storeRegisters x => do machine.guardedStore (← machine.guardedFirst (x.val + 1))
  | .loadRegisters x => machine.guardedLoad (x.val + 1)

/-- `step`, with every sum and every place checked. A fault leaves the machine as it was. -/
def guardedStep (machine : Machine) : Guarded (Outcome × Machine) :=
  if machine.keypad.awaiting.isSome then .ok (.waiting, machine)
  else
    match machine.fetch with
    | .error fault => .ok (.faulted fault, machine)
    | .ok instruction =>
        match machine.guardedAdvance.bind (·.guardedEffect machine.counter instruction) with
        | .ok executed => .ok (.executed instruction, executed)
        | .error (.fault fault) => .ok (.faulted fault, machine)
        | .error stop => .error stop

/-- `press`, with every sum and every place checked. -/
def guardedPress (machine : Machine) (key : Key) : Guarded Machine :=
  let pressed := { machine with keypad := machine.keypad.press key }
  match machine.keypad.awaiting with
  | some x => do (← pressed.guardedSetReg x.val key.byte).guardedAdvance
  | none => return pressed

end Machine

end Chip8
