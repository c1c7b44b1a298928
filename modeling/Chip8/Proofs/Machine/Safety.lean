import Chip8.Proofs.Machine.Guarded

/-!
# Safety of reachable machines

Each guarded operation is related to the plain one by a lemma of its own: registers exist by
their type, the slots of the call stack by its depth, and sums fit because of the bounds of
`Machine.InBounds`. `guardedEffect_advance` puts them together: once an instruction was fetched,
`Machine.obstacle?` is all that can stop it.
-/

namespace Chip8

@[simp] theorem sumBelow_of_lt {limit left right : Nat} (fits : left + right < limit) :
    sumBelow limit left right = .ok (left + right) :=
  if_pos fits

/-- Writing values one by one inside memory refuses none of them and stores them all. -/
theorem Memory.guardedWrites_eq (memory : Memory) (start : Nat) (values : List UInt8) {offset : Nat}
    (inside : start + offset + values.length ≤ memorySize) :
    memory.guardedWrites start offset values = .ok (memory.store (start + offset) values) := by
  induction values generalizing memory offset with
  | nil => rfl
  | cons value rest ih =>
      have room : start + offset < memorySize := by
        simp only [List.length_cons] at inside
        omega
      have fits : start + offset < UInt64.size :=
        Nat.lt_trans room (by decide)
      have written : memory.write (start + offset) value = .ok (memory.put (start + offset) value) :=
        if_pos room
      have later : start + (offset + 1) + rest.length ≤ memorySize := by
        simp only [List.length_cons] at inside
        omega
      simp only [guardedWrites, sumBelow_of_lt fits, bind, Except.bind, written]
      exact ih _ later

namespace Machine

variable {machine : Machine}

theorem guardedAdvance_eq (inside : machine.counter.toNat ≤ 0x10FE) :
    machine.guardedAdvance = .ok machine.advance := by
  have fits : machine.counter.toNat + 2 < UInt16.size := by
    have : UInt16.size = 65536 := rfl
    omega
  have sum : UInt16.ofNat (machine.counter.toNat + 2) = machine.counter + 2 := by
    apply UInt16.toNat_inj.mp
    simp
  simp only [guardedAdvance, sumBelow_of_lt fits, bind, Except.bind, pure, Except.pure, sum]
  rfl

theorem guardedSkipIf_eq (inside : machine.counter.toNat ≤ 0x10FE) (condition : Bool) :
    machine.guardedSkipIf condition = .ok (machine.skipIf condition) := by
  cases condition with
  | true => exact guardedAdvance_eq inside
  | false => rfl

@[simp] theorem guardedReg_val (x : Register) : machine.guardedReg x.val = .ok (machine.reg x) := by
  simp [guardedReg, reg, Registers.get]

@[simp] theorem guardedSetReg_val (x : Register) (value : UInt8) :
    machine.guardedSetReg x.val value = .ok (machine.setReg x value) :=
  dif_pos x.isLt

@[simp] theorem guardedSetWithFlag_val (x : Register) (value : UInt8) (condition : Bool) :
    machine.guardedSetWithFlag x.val value condition =
      .ok (machine.setWithFlag x value condition) := by
  simp [guardedSetWithFlag, setWithFlag, bind, Except.bind]

/-- The slot that a pop frees holds the address that it returns. -/
theorem guardedLeave_eq (site : UInt16) :
    machine.guardedLeave site =
      if machine.registers.stack.depth = 0 then .error (.fault (.stackUnderflow site))
      else .ok machine.leave := by
  have bound := machine.registers.stack.depth_le
  simp only [guardedLeave, leave, CallStack.pop?]
  by_cases empty : machine.registers.stack.depth = 0
  · simp [empty]
  · have live : 0 < machine.registers.stack.depth := Nat.pos_of_ne_zero empty
    have slot : machine.registers.stack.depth - 1 < stackSize := by omega
    simp [empty, live, Vector.getElem?_eq_getElem slot]

/-- A stack that takes a push has fewer than 16 live slots, so their number fits in a byte. -/
theorem guardedEnter_eq (site target : UInt16) :
    machine.guardedEnter site target =
      if machine.registers.stack.depth = stackSize then .error (.fault (.stackOverflow site))
      else .ok (machine.enter target) := by
  have bound := machine.registers.stack.depth_le
  simp only [guardedEnter, enter, CallStack.push?]
  by_cases full : machine.registers.stack.depth = stackSize
  · simp [full]
  · have room : machine.registers.stack.depth < stackSize := by omega
    have fits : machine.registers.stack.depth + 1 < UInt8.size :=
      Nat.lt_of_le_of_lt room (by decide)
    simp [full, room, sumBelow_of_lt fits, bind, Except.bind, pure, Except.pure]

/-- The end of a range from the index on is a 64-bit number, so only memory bounds it. -/
theorem guardedSlice_eq {length : Nat} (short : length ≤ 16) :
    machine.guardedSlice length =
      match Memory.rangeFault? machine.index.toNat length with
      | some fault => .error (.fault fault)
      | none => .ok (machine.memory.range machine.index.toNat length) := by
  have indexEq : (UInt64.ofNat machine.index.toNat).toNat = machine.index.toNat := by
    simp
  have lengthEq : (UInt64.ofNat length).toNat = length := by
    simp
    omega
  have representable : (UInt64.ofNat machine.index.toNat).toNat + (UInt64.ofNat length).toNat <
      UInt64.size := by
    have := machine.index.toNat_lt
    have : UInt64.size = 18446744073709551616 := rfl
    omega
  rw [guardedSlice, Memory.sliceSpan_eq_slice machine.memory representable, indexEq, lengthEq,
    Memory.slice]
  cases Memory.rangeFault? machine.index.toNat length <;> rfl

/-- A range that was accepted is written to its end. -/
theorem guardedStore_eq {values : List UInt8} (short : values.length ≤ 16) :
    machine.guardedStore values =
      match Memory.rangeFault? machine.index.toNat values.length with
      | some fault => .error (.fault fault)
      | none => .ok (machine.storeAtIndex values) := by
  simp only [guardedStore, guardedSlice_eq short]
  cases range : Memory.rangeFault? machine.index.toNat values.length with
  | some fault => rfl
  | none =>
      rcases Memory.rangeFault?_eq_none_iff.mp range with none | inside
      · rw [List.length_eq_zero_iff.mp none]
        rfl
      · have written : machine.memory.guardedWrites machine.index.toNat 0 values =
            .ok (machine.memory.store machine.index.toNat values) :=
          machine.memory.guardedWrites_eq _ values inside
        simp [bind, Except.bind, pure, Except.pure, written, storeAtIndex]

theorem guardedLoad_eq (x : Register) :
    machine.guardedLoad (x.val + 1) =
      match Memory.rangeFault? machine.index.toNat (x.val + 1) with
      | some fault => .error (.fault fault)
      | none => .ok (machine.loadFromIndex x) := by
  have count : x.val + 1 ≤ 16 := x.isLt
  simp only [guardedLoad, guardedSlice_eq count]
  cases Memory.rangeFault? machine.index.toNat (x.val + 1) with
  | some fault => rfl
  | none => simp [bind, Except.bind, pure, Except.pure, count, loadFromIndex]

theorem guardedDraw_eq (x y : Register) (height : Fin 16) :
    machine.guardedDraw x.val y.val height.val =
      match Memory.rangeFault? machine.index.toNat height.val with
      | some fault => .error (.fault fault)
      | none => .ok (machine.drawSprite x y height.val) := by
  have columns : (machine.reg x).toNat + 7 < UInt64.size := by
    have := (machine.reg x).toNat_lt
    have : UInt64.size = 18446744073709551616 := rfl
    omega
  have rows : (machine.reg y).toNat + height.val < UInt64.size := by
    have := (machine.reg y).toNat_lt
    have : UInt64.size = 18446744073709551616 := rfl
    omega
  simp only [guardedDraw, guardedReg_val, guardedSlice_eq (Nat.le_of_lt height.isLt), bind,
    Except.bind]
  cases Memory.rangeFault? machine.index.toNat height.val with
  | some fault => rfl
  | none => simp [sumBelow_of_lt columns, sumBelow_of_lt rows, drawSprite]

/-- Behind a fetched instruction, guarded execution is stopped by the obstacles that are looked for
beforehand and by nothing else. -/
theorem guardedEffect_advance (inside : machine.counter.toNat + 2 ≤ 4096)
    (instruction : Instruction) :
    machine.advance.guardedEffect machine.counter instruction =
      match machine.obstacle? instruction with
      | some fault => .error (.fault fault)
      | none => .ok (machine.perform instruction) := by
  have advanced : machine.advance.counter.toNat = machine.counter.toNat + 2 :=
    toNat_counter_advance (by omega)
  have high : machine.advance.counter.toNat ≤ 0x10FE := by omega
  cases instruction
  case ret =>
    rw [guardedEffect, guardedLeave_eq, obstacle?]
    show (if machine.registers.stack.depth = 0 then _ else _) = _
    split <;> rfl
  case call target =>
    rw [guardedEffect, guardedEnter_eq, obstacle?]
    show (if machine.registers.stack.depth = stackSize then _ else _) = _
    split <;> rfl
  case skipIfConstant | skipUnlessConstant | skipIfSame | skipUnlessSame =>
    simp [guardedEffect, obstacle?, Instruction.touched, perform, effect, bind, Except.bind,
      guardedSkipIf_eq high]
  case skipIfPressed x | skipUnlessPressed x =>
    have noted : (machine.advance.noteTest (machine.advance.reg x)).counter.toNat ≤ 0x10FE := by
      rw [noteTest_eq]
      exact high
    simp [guardedEffect, obstacle?, Instruction.touched, perform, effect, bind, Except.bind,
      guardedSkipIf_eq noted]
  case jumpOffset target =>
    have fits : target.val + (machine.advance.reg offset).toNat < UInt16.size := by
      have := target.isLt
      have := (machine.advance.reg offset).toNat_lt
      have : UInt16.size = 65536 := rfl
      omega
    have sum : UInt16.ofNat (target.val + (machine.advance.reg offset).toNat) =
        UInt16.ofNat target.val + (machine.advance.reg offset).toUInt16 := by
      apply UInt16.toNat_inj.mp
      simp
    simp [guardedEffect, obstacle?, Instruction.touched, perform, effect, bind, Except.bind, pure,
      Except.pure, sumBelow_of_lt fits, sum]
  case waitForKey x =>
    have site : machine.advance.counter - 2 = machine.counter := UInt16.add_sub_cancel _ _
    simp [guardedEffect, obstacle?, Instruction.touched, perform, effect, pure, Except.pure, site]
  case draw x y height => exact guardedDraw_eq x y height
  case storeDecimal x =>
    have short : (decimalDigits (machine.advance.reg x)).length ≤ 16 :=
      show 3 ≤ 16 by decide
    simp only [guardedEffect, guardedReg_val, bind, Except.bind, guardedStore_eq short]
    rfl
  case storeRegisters x =>
    have count : x.val + 1 ≤ 16 := x.isLt
    have length : (machine.advance.registers.upTo x).length = x.val + 1 := Registers.length_upTo _ x
    have short : (machine.advance.registers.upTo x).length ≤ 16 := by omega
    have values : machine.advance.guardedFirst (x.val + 1) =
        .ok (machine.advance.registers.upTo x) := if_pos count
    simp only [guardedEffect, values, bind, Except.bind, guardedStore_eq short, length]
    rfl
  case loadRegisters x => exact guardedLoad_eq x
  all_goals
    simp [guardedEffect, obstacle?, Instruction.touched, perform, effect, bind, Except.bind, pure,
      Except.pure]

namespace InBounds

/-- Within the bounds a guarded step is the plain step. -/
theorem guardedStep_eq (inBounds : InBounds machine) :
    machine.guardedStep = .ok machine.step := by
  rw [guardedStep, Machine.step]
  split
  · rfl
  · cases fetched : machine.fetch with
    | error fault => rfl
    | ok instruction =>
        have inside := counter_add_two_le_of_fetch fetched
        have advance := guardedAdvance_eq inBounds.counter_le
        simp only [advance, Except.bind, guardedEffect_advance inside instruction]
        cases machine.obstacle? instruction <;> rfl

/-- Within the bounds a guarded press is the plain press. -/
theorem guardedPress_eq (inBounds : InBounds machine) (key : Key) :
    machine.guardedPress key = .ok (machine.press key) := by
  rw [guardedPress, Machine.press]
  cases machine.keypad.awaiting with
  | none => rfl
  | some x =>
      simp only [guardedSetReg_val, bind, Except.bind]
      exact guardedAdvance_eq inBounds.counter_le

end InBounds

/-- On every reachable machine the counter, the call stack and the latch are in bounds, and no sum
of a step or a key press leaves its word, no place is missing and no accepted write is refused. -/
theorem Reachable.safe (reachable : Reachable machine) :
    InBounds machine ∧ machine.guardedStep = .ok machine.step ∧
      ∀ key, machine.guardedPress key = .ok (machine.press key) :=
  have inBounds := reachable.inBounds
  ⟨inBounds, inBounds.guardedStep_eq, inBounds.guardedPress_eq⟩

/-- The highest counter is reached: `V0` takes the highest byte, and an offset jump names the
highest address. -/
theorem safe_at_highest_counter :
    let highest := ((boot [0x60, 0xFF, 0xBF, 0xFF] 0).after .step).after .step
    highest.counter = 0x10FE ∧ InBounds highest ∧ highest.guardedStep = .ok highest.step ∧
      ∀ key, highest.guardedPress key = .ok (highest.press key) := by
  let first := boot [0x60, 0xFF, 0xBF, 0xFF] 0
  let second := first.perform (.setConstant 0 0xFF)
  have load : first.fetch = .ok (.setConstant 0 0xFF) :=
    fetch_of_image rfl (by decide) (by decide)
  have loaded : first.after .step = second := by
    rw [after_step, step_of_fetch rfl load rfl]
  have jump : second.fetch = .ok (.jumpOffset 0xFFF) :=
    fetch_of_image rfl (by decide) (by decide)
  have jumped : second.after .step = second.perform (.jumpOffset 0xFFF) := by
    rw [after_step, step_of_fetch rfl jump rfl]
  refine ⟨?_, (((Reachable.boot _ _).after .step).after .step).safe⟩
  show ((first.after .step).after .step).counter = 0x10FE
  rw [loaded, jumped]
  decide

end Machine

end Chip8
