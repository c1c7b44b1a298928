import Chip8.Machine.History

/-!
# What instructions do to each part of a machine

`Machine.effect` says what an instruction does to a whole machine. Here it is read part by part:
one equation for each part, with one line for each instruction that touches it, so that a proof
about one part need not open the other instructions. `Machine.step_cases` lists the three courses
that a step can take.
-/

namespace Chip8.Machine

/-- What a skip decides on, if the instruction is one. -/
def skipTest? (machine : Machine) : Instruction → Option Bool
  | .skipIfConstant x n => some (machine.reg x == n)
  | .skipUnlessConstant x n => some (machine.reg x != n)
  | .skipIfSame x y => some (machine.reg x == machine.reg y)
  | .skipUnlessSame x y => some (machine.reg x != machine.reg y)
  | .skipIfPressed x => some (machine.holds (machine.reg x))
  | .skipUnlessPressed x => some (!machine.holds (machine.reg x))
  | _ => none

section Parts

variable (machine : Machine)

/-! The operations that take cases, each as one update. -/

theorem skipIf_eq (condition : Bool) :
    machine.skipIf condition =
      machine.goto (if condition then machine.counter + 2 else machine.counter) := by
  cases condition <;> rfl

theorem noteTest_eq (code : UInt8) :
    machine.noteTest code =
      { machine with
        tested := ((Key.ofCode? code.toNat).map machine.tested.insert).getD machine.tested } := by
  simp only [noteTest]
  cases Key.ofCode? code.toNat <;> rfl

theorem leave_eq :
    machine.leave =
      { machine with
        registers := { machine.registers with
          stack := (machine.registers.stack.pop?.map (·.2)).getD machine.registers.stack
          counter := (machine.registers.stack.pop?.map (·.1)).getD machine.counter } } := by
  simp only [leave]
  cases machine.registers.stack.pop? <;> rfl

theorem enter_eq (target : UInt16) :
    machine.enter target =
      { machine with
        registers := { machine.registers with
          stack := (machine.registers.stack.push? machine.counter).getD machine.registers.stack
          counter :=
            if (machine.registers.stack.push? machine.counter).isSome then target
            else machine.counter } } := by
  simp only [enter]
  cases machine.registers.stack.push? machine.counter <;> rfl

/-! What the operations that change registers make of each of them. -/

theorem reg_setReg (x y : Register) (value : UInt8) :
    (machine.setReg x value).reg y = if x = y then value else machine.reg y :=
  Registers.get_set machine.registers x y value

theorem reg_setWithFlag (x y : Register) (value : UInt8) (condition : Bool) :
    (machine.setWithFlag x value condition).reg y =
      if flag = y then flagOf condition else if x = y then value else machine.reg y := by
  rw [setWithFlag, reg_setReg, reg_setReg]

theorem reg_loadFromIndex (x y : Register) :
    (machine.loadFromIndex x).reg y =
      if y.val < x.val + 1 then machine.memory.cell (machine.index.toNat + y.val)
      else machine.reg y :=
  (Registers.get_setAll machine.registers _ y).trans (machine.memory.getD_range _ _ _ _)

/-- Where the machine continues. -/
theorem counter_effect (instruction : Instruction) :
    (machine.effect instruction).counter =
      match instruction with
      | .ret => (machine.registers.stack.pop?.map (·.1)).getD machine.counter
      | .jump target => UInt16.ofNat target.val
      | .call target =>
          if (machine.registers.stack.push? machine.counter).isSome then UInt16.ofNat target.val
          else machine.counter
      | .jumpOffset target => UInt16.ofNat target.val + (machine.reg offset).toUInt16
      | .waitForKey _ => machine.counter - 2
      | other =>
          if machine.skipTest? other = some true then machine.counter + 2
          else machine.counter := by
  cases instruction
  case ret => rw [effect, leave_eq]; rfl
  case call => rw [effect, enter_eq]; rfl
  case skipIfConstant | skipUnlessConstant | skipIfSame | skipUnlessSame =>
    rw [effect, skipIf_eq]
    simp [skipTest?, goto, counter]
  case skipIfPressed | skipUnlessPressed =>
    rw [effect, skipIf_eq, noteTest_eq]
    simp [skipTest?, goto, counter]
  case loadRegisters => simp [effect, loadFromIndex, counter, Registers.setAll, skipTest?]
  all_goals rfl

/-- What the call stack becomes. -/
theorem stack_effect (instruction : Instruction) :
    (machine.effect instruction).registers.stack =
      match instruction with
      | .ret => (machine.registers.stack.pop?.map (·.2)).getD machine.registers.stack
      | .call _ =>
          (machine.registers.stack.push? machine.counter).getD machine.registers.stack
      | _ => machine.registers.stack := by
  cases instruction <;>
    simp only [effect, skipIf_eq, noteTest_eq, leave_eq, enter_eq, loadFromIndex,
      Registers.setAll] <;> rfl

/-- What memory becomes. -/
theorem memory_effect (instruction : Instruction) :
    (machine.effect instruction).memory =
      match instruction with
      | .storeDecimal x =>
          machine.memory.store machine.index.toNat (decimalDigits (machine.reg x))
      | .storeRegisters x => machine.memory.store machine.index.toNat (machine.registers.upTo x)
      | _ => machine.memory := by
  cases instruction <;>
    simp only [effect, skipIf_eq, noteTest_eq, leave_eq, enter_eq, loadFromIndex] <;> rfl

/-- What the index becomes. -/
theorem index_effect (instruction : Instruction) :
    (machine.effect instruction).index =
      match instruction with
      | .setIndex target => UInt16.ofNat target.val
      | .addToIndex x => machine.index + (machine.reg x).toUInt16
      | .indexGlyph x => UInt16.ofNat ((machine.reg x).toNat % 16 * glyphSize)
      | _ => machine.index := by
  cases instruction <;>
    simp only [effect, skipIf_eq, noteTest_eq, leave_eq, enter_eq, loadFromIndex,
      Registers.setAll] <;> rfl

/-- What the keypad becomes. -/
theorem keypad_effect (instruction : Instruction) :
    (machine.effect instruction).keypad =
      match instruction with
      | .waitForKey x => machine.keypad.await x
      | _ => machine.keypad := by
  cases instruction <;>
    simp only [effect, skipIf_eq, noteTest_eq, leave_eq, enter_eq, loadFromIndex] <;> rfl

/-- What the set of tested keys becomes. -/
theorem tested_effect (instruction : Instruction) :
    (machine.effect instruction).tested =
      match instruction with
      | .skipIfPressed x | .skipUnlessPressed x => (machine.noteTest (machine.reg x)).tested
      | _ => machine.tested := by
  cases instruction <;>
    simp only [effect, skipIf_eq, noteTest_eq, leave_eq, enter_eq, loadFromIndex] <;> rfl

/-- What the timers become. -/
theorem timers_effect (instruction : Instruction) :
    (machine.effect instruction).timers =
      match instruction with
      | .setDelay x => { machine.timers with delay := machine.reg x }
      | .setSound x => { machine.timers with sound := machine.reg x }
      | _ => machine.timers := by
  cases instruction <;>
    simp only [effect, skipIf_eq, noteTest_eq, leave_eq, enter_eq, loadFromIndex] <;> rfl

/-- What becomes of the random words. -/
theorem random_effect (instruction : Instruction) :
    (machine.effect instruction).random =
      match instruction with
      | .random _ _ => machine.random.tail
      | _ => machine.random := by
  cases instruction <;>
    simp only [effect, skipIf_eq, noteTest_eq, leave_eq, enter_eq, loadFromIndex] <;> rfl

/-- What the screen becomes. -/
theorem screen_effect (instruction : Instruction) :
    (machine.effect instruction).screen =
      match instruction with
      | .clearScreen => .blank
      | .draw x y height => (machine.drawSprite x y height.val).screen
      | _ => machine.screen := by
  cases instruction <;>
    simp only [effect, skipIf_eq, noteTest_eq, leave_eq, enter_eq, loadFromIndex] <;> rfl

/-- What becomes of the note that the screen may have changed. -/
theorem screenChanged_effect (instruction : Instruction) :
    (machine.effect instruction).screenChanged =
      match instruction with
      | .clearScreen | .draw _ _ _ => true
      | _ => machine.screenChanged := by
  cases instruction <;>
    simp only [effect, skipIf_eq, noteTest_eq, leave_eq, enter_eq, loadFromIndex] <;> rfl

end Parts

/-! ## The courses of a step -/

/-- An instruction can be fetched only if both its bytes lie in memory. -/
theorem counter_add_two_le_of_fetch {machine : Machine} {instruction : Instruction}
    (fetched : machine.fetch = .ok instruction) : machine.counter.toNat + 2 ≤ memorySize := by
  by_cases inside : machine.counter.toNat + 1 < memorySize
  · exact inside
  · have refused : machine.memory.read (machine.counter.toNat + 1) =
        .error (.memoryOutOfBounds (machine.counter.toNat + 1)) := by
      rw [Memory.read, if_neg inside]
    simp only [fetch, refused] at fetched
    split at fetched <;> simp_all

/-- What is fetched lies in memory at the counter. -/
theorem fetch_congr {machine later : Machine} (memory : later.memory = machine.memory)
    (counter : later.counter = machine.counter) : later.fetch = machine.fetch := by
  simp only [fetch, memory, counter]

/-- The word at the counter, whose first byte is its high byte. -/
def opcode (machine : Machine) : Opcode :=
  .ofBytes (machine.memory.cell machine.counter.toNat)
    (machine.memory.cell (machine.counter.toNat + 1))

/-- A word that lies in memory is fetched as the instruction it stands for. -/
theorem fetch_of_inside {machine : Machine} (inside : machine.counter.toNat + 2 ≤ memorySize) :
    machine.fetch =
      match machine.opcode.decode with
      | some instruction => .ok instruction
      | none => .error (.invalidOpcode machine.opcode.word machine.counter) := by
  have high : machine.memory.read machine.counter.toNat =
      .ok (machine.memory.cell machine.counter.toNat) := if_pos (by omega)
  have low : machine.memory.read (machine.counter.toNat + 1) =
      .ok (machine.memory.cell (machine.counter.toNat + 1)) := if_pos (by omega)
  simp only [fetch, high, low]
  rfl

/-- An instruction that is fetched is the one that the two bytes at the counter make. -/
theorem decode_of_fetch {machine : Machine} {instruction : Instruction}
    (fetched : machine.fetch = .ok instruction) : machine.opcode.decode = some instruction := by
  rw [fetch_of_inside (counter_add_two_le_of_fetch fetched)] at fetched
  split at fetched
  · rename_i decoded
    cases fetched
    exact decoded
  · cases fetched

/-- Two bytes in memory that make an instruction are fetched as that instruction. -/
theorem fetch_of_decode {machine : Machine} {instruction : Instruction}
    (inside : machine.counter.toNat + 2 ≤ memorySize)
    (decoded : machine.opcode.decode = some instruction) : machine.fetch = .ok instruction := by
  rw [fetch_of_inside inside, decoded]

/-- Two bytes of a freshly loaded memory that make an instruction are fetched as that
instruction. -/
theorem fetch_of_image {machine : Machine} {image : List UInt8} {instruction : Instruction}
    (fresh : machine.memory = .ofImage image) (inside : machine.counter.toNat + 2 ≤ memorySize)
    (decoded : (Opcode.ofBytes (Memory.initialCell image.toArray machine.counter.toNat)
      (Memory.initialCell image.toArray (machine.counter.toNat + 1))).decode = some instruction) :
    machine.fetch = .ok instruction := by
  apply fetch_of_decode inside
  rw [opcode, fresh, Memory.cell_ofImage image (by omega), Memory.cell_ofImage image (by omega)]
  exact decoded

/-- An instruction that is fetched and meets no obstacle is executed, unless the machine waits. -/
theorem step_of_fetch {machine : Machine} {instruction : Instruction}
    (ready : machine.keypad.awaiting = none) (fetched : machine.fetch = .ok instruction)
    (free : machine.obstacle? instruction = none) :
    machine.step = (.executed instruction, machine.perform instruction) := by
  simp [step, ready, fetched, free]

@[simp] theorem after_step (machine : Machine) : machine.after .step = machine.step.2 := rfl

/-- A step waits, faults, or executes the instruction at the counter. -/
theorem step_cases (machine : Machine) :
    (machine.keypad.awaiting.isSome ∧ machine.step = (.waiting, machine)) ∨
      (∃ fault, machine.keypad.awaiting = none ∧ machine.step = (.faulted fault, machine)) ∨
      ∃ instruction, machine.keypad.awaiting = none ∧ machine.fetch = .ok instruction ∧
        machine.obstacle? instruction = none ∧
        machine.step = (.executed instruction, machine.perform instruction) := by
  rw [step]
  by_cases waits : machine.keypad.awaiting.isSome
  · exact .inl ⟨waits, if_pos waits⟩
  have ready : machine.keypad.awaiting = none := by simpa using waits
  rw [if_neg waits]
  cases fetched : machine.fetch with
  | error fault => exact .inr (.inl ⟨fault, ready, rfl⟩)
  | ok instruction =>
      cases obstacle : machine.obstacle? instruction with
      | some fault => exact .inr (.inl ⟨fault, ready, by simp [obstacle]⟩)
      | none => exact .inr (.inr ⟨instruction, ready, rfl, obstacle, by simp [obstacle]⟩)

/-- A step that executes an instruction has fetched it and met no obstacle. -/
theorem course_of_executed {machine : Machine} {instruction : Instruction}
    (executed : machine.step.1 = .executed instruction) :
    machine.keypad.awaiting = none ∧ machine.fetch = .ok instruction ∧
      machine.obstacle? instruction = none ∧
      machine.step = (.executed instruction, machine.perform instruction) := by
  rcases machine.step_cases with
    ⟨_, course⟩ | ⟨_, _, course⟩ | ⟨_, ready, fetched, free, course⟩ <;>
      rw [course] at executed <;> cases executed
  exact ⟨ready, fetched, free, course⟩

/-- A step executes what its outcome says. -/
theorem executed?_step_iff {machine : Machine} {instruction : Instruction} :
    machine.executed? .step = some instruction ↔ machine.step.1 = .executed instruction := by
  rw [executed?]
  split <;> simp_all

/-- Only a step executes an instruction, and what it leaves is what the instruction makes of the
machine. -/
theorem step_of_executed? {machine : Machine} {event : Event} {instruction : Instruction}
    (executed : machine.executed? event = some instruction) :
    event = .step ∧ machine.step = (.executed instruction, machine.perform instruction) := by
  cases event with
  | tick | press | release | acknowledge => cases executed
  | step =>
      obtain ⟨-, -, -, course⟩ := course_of_executed (executed?_step_iff.mp executed)
      exact ⟨rfl, course⟩

/-- A step that executes nothing does nothing. -/
theorem step_of_executed?_none {machine : Machine} (idle : machine.executed? .step = none) :
    machine.step.2 = machine := by
  apply step_unchanged
  intro instruction executed
  simp only [executed?, executed] at idle
  cases idle

/-- What is executed by a single step, and the machine behind it. -/
theorem executions_of_step {machine next : Machine} {instruction : Instruction}
    (course : machine.step = (.executed instruction, next)) :
    machine.executions [.step] = [(machine, instruction)] ∧ machine.afterAll [.step] = next := by
  simp [executions, chronicle, executed?, afterAll, after, course]

/-- Whatever is listed as executed was executed by a step. -/
theorem step_of_mem_executions {machine before : Machine} {events : List Event}
    {instruction : Instruction} (listed : (before, instruction) ∈ machine.executions events) :
    before.step = (.executed instruction, before.perform instruction) := by
  induction events generalizing machine with
  | nil => cases listed
  | cons event rest ih =>
      rw [executions_cons, List.mem_append] at listed
      rcases listed with here | later
      · cases executed : machine.executed? event with
        | none =>
            rw [executed] at here
            cases here
        | some other =>
            rw [executed] at here
            cases List.mem_singleton.mp here
            exact (step_of_executed? executed).2
      · exact ih later

end Chip8.Machine
