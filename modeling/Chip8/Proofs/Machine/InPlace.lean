import Chip8.Proofs.Machine.Effects

/-!
# Execution in place

`Machine.step` looks for every obstacle before it changes anything. In-place execution takes the
opposite course: the counter is moved before the instruction is executed, bytes are written one
after the other, and an operation that meets a fault leaves behind whatever was changed up to
then; all that is taken back is the counter. `Machine.stepInPlace_eq` says that this comes to the
same, so a fault never leaves a trace.
-/

namespace Chip8.Machine

/-- Write bytes one after the other from an address on. A refused write ends it, and what was
written before stays written. -/
def writeInPlace (machine : Machine) (address : Nat) : List UInt8 → Option Fault × Machine
  | [] => (none, machine)
  | value :: rest =>
      match machine.memory.write address value with
      | .error fault => (some fault, machine)
      | .ok memory => { machine with memory }.writeInPlace (address + 1) rest

/-- Go on with the bytes of a range from the index on, if all of it lies in memory. -/
def withSlice (machine : Machine) (length : Nat)
    (use : List UInt8 → Option Fault × Machine) : Option Fault × Machine :=
  match machine.memory.slice machine.index.toNat length with
  | .error fault => (some fault, machine)
  | .ok bytes => use bytes

/-- Execute an instruction that was fetched from `site`, with the counter already behind it. The
machine is what is left when the execution ends, by a fault or otherwise. -/
def executeInPlace (machine : Machine) (site : UInt16) : Instruction → Option Fault × Machine
  | .ret =>
      match machine.registers.pop site with
      | .error fault => (some fault, machine)
      | .ok (address, registers) => (none, { machine with registers }.goto address)
  | .call target =>
      match machine.registers.push machine.counter site with
      | .error fault => (some fault, machine)
      | .ok registers => (none, { machine with registers }.goto (UInt16.ofNat target.val))
  | .draw x y height =>
      machine.withSlice height.val fun sprite =>
        let (collided, screen) :=
          machine.screen.draw (machine.reg x).toNat (machine.reg y).toNat sprite
        (none, { machine with screen, screenChanged := true }.setReg flag (flagOf collided))
  | .storeDecimal x =>
      machine.withSlice 3 fun _ =>
        machine.writeInPlace machine.index.toNat (decimalDigits (machine.reg x))
  | .storeRegisters x =>
      machine.withSlice (x.val + 1) fun _ =>
        machine.writeInPlace machine.index.toNat (machine.registers.upTo x)
  | .loadRegisters x =>
      machine.withSlice (x.val + 1) fun values =>
        (none, { machine with registers := machine.registers.setAll values })
  | instruction => (none, machine.effect instruction)

/-- Fetch and execute one instruction in place, unless one still waits for a key. After a fault
the counter is put back on the instruction. -/
def stepInPlace (machine : Machine) : Outcome × Machine :=
  if machine.keypad.awaiting.isSome then (.waiting, machine)
  else
    match machine.fetch with
    | .error fault => (.faulted fault, machine)
    | .ok instruction =>
        match machine.advance.executeInPlace machine.counter instruction with
        | (none, left) => (.executed instruction, left)
        | (some fault, left) => (.faulted fault, left.goto machine.counter)

variable {machine : Machine}

/-- No write inside memory is refused. -/
theorem writeInPlace_eq {address : Nat} {values : List UInt8}
    (inside : address + values.length ≤ memorySize) :
    machine.writeInPlace address values =
      (none, { machine with memory := machine.memory.store address values }) := by
  induction values generalizing machine address with
  | nil => rfl
  | cons value rest ih =>
      rw [List.length_cons] at inside
      have written : machine.memory.write address value =
          .ok (machine.memory.put address value) := if_pos (by omega)
      simp only [writeInPlace, written]
      rw [ih (by omega)]
      rfl

/-- A range that leaves memory is refused before anything is done with it. -/
theorem withSlice_eq (length : Nat) (use : List UInt8 → Option Fault × Machine) :
    machine.withSlice length use =
      match Memory.rangeFault? machine.index.toNat length with
      | some fault => (some fault, machine)
      | none => use (machine.memory.range machine.index.toNat length) := by
  rw [withSlice, Memory.slice]
  cases Memory.rangeFault? machine.index.toNat length <;> rfl

/-- A range that was accepted is written to its end. -/
theorem withSlice_writeInPlace (values : List UInt8) :
    (machine.withSlice values.length fun _ =>
        machine.writeInPlace machine.index.toNat values) =
      match Memory.rangeFault? machine.index.toNat values.length with
      | some fault => (some fault, machine)
      | none => (none, machine.storeAtIndex values) := by
  rw [withSlice_eq]
  cases range : Memory.rangeFault? machine.index.toNat values.length with
  | some fault => rfl
  | none =>
      rcases Memory.rangeFault?_eq_none_iff.mp range with none | inside
      · rw [List.length_eq_zero_iff.mp none]
        rfl
      · exact writeInPlace_eq inside

/-- Behind a fetched instruction, execution in place ends at the obstacles that are looked for
beforehand, and it ends there before it has changed anything. -/
theorem executeInPlace_advance (instruction : Instruction) :
    machine.advance.executeInPlace machine.counter instruction =
      match machine.obstacle? instruction with
      | some fault => (some fault, machine.advance)
      | none => (none, machine.perform instruction) := by
  cases instruction
  case ret =>
    have depth : machine.advance.registers.stack = machine.registers.stack := rfl
    simp only [executeInPlace, obstacle?, perform, effect, leave, Registers.pop]
    cases pop : machine.advance.registers.stack.pop? with
    | none => rw [if_pos (depth ▸ CallStack.pop?_eq_none_iff.mp pop)]
    | some popped =>
        have live : machine.registers.stack.depth ≠ 0 := fun empty => by
          rw [CallStack.pop?_eq_none_iff.mpr (depth ▸ empty)] at pop
          cases pop
        rw [if_neg live]
        rfl
  case call target =>
    have depth : machine.advance.registers.stack = machine.registers.stack := rfl
    simp only [executeInPlace, obstacle?, perform, effect, enter, Registers.push]
    cases push : machine.advance.registers.stack.push? machine.advance.counter with
    | none => rw [if_pos (depth ▸ CallStack.push?_eq_none_iff.mp push)]
    | some pushed =>
        have room : machine.registers.stack.depth ≠ stackSize := fun full => by
          rw [CallStack.push?_eq_none_iff.mpr (depth ▸ full)] at push
          cases push
        rw [if_neg room]
        rfl
  case draw x y height => exact withSlice_eq height.val _
  case storeDecimal x => exact withSlice_writeInPlace (decimalDigits (machine.advance.reg x))
  case storeRegisters x =>
    have written := @withSlice_writeInPlace machine.advance (machine.advance.registers.upTo x)
    rw [Registers.length_upTo] at written
    exact written
  case loadRegisters x => exact withSlice_eq (x.val + 1) _
  all_goals rfl

/-- Execution in place and execution after a search for obstacles are the same. -/
theorem stepInPlace_eq (machine : Machine) : machine.stepInPlace = machine.step := by
  rw [stepInPlace, step]
  split
  · rfl
  · cases machine.fetch with
    | error fault => rfl
    | ok instruction =>
        simp only [executeInPlace_advance]
        -- putting the counter back undoes the only change that was made
        cases machine.obstacle? instruction <;> rfl

end Chip8.Machine
