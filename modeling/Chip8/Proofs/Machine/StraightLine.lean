import Chip8.Proofs.Machine.Bounds
import Chip8.Proofs.Machine.Causes
import Chip8.Proofs.Machine.Waiting

/-!
# Straight-line programs

A program without jumps, calls, skips, waits and stores into memory is executed as it is written
down, line after line. Its lines are loaded two bytes at a time (`Line.getElem?_assemble`), each of
them is read as what it was written for (`Line.decode_word`), and none of them touches the program
or leads elsewhere (`Machine.AtLine.step`). So ticks and keys make no difference, and only an
instruction that reads beyond memory keeps a run from its end behind the last line:
`Machine.straight_line_in_order`.
-/

namespace Chip8

/-! ## Lines -/

/-- The machine goes on behind the instruction, does not wait, and leaves memory as it is. -/
def Instruction.isStraight : Instruction → Bool
  | .jump _ | .jumpOffset _ | .call _ | .ret => false
  | .skipIfConstant _ _ | .skipUnlessConstant _ _ | .skipIfSame _ _ | .skipUnlessSame _ _
  | .skipIfPressed _ | .skipUnlessPressed _ => false
  | .waitForKey _ | .storeDecimal _ | .storeRegisters _ => false
  | _ => true

/-- The instruction reads memory through the index. -/
def Instruction.readsMemory : Instruction → Bool
  | .draw _ _ _ | .loadRegisters _ => true
  | _ => false

/-- A line of a program: an instruction, and the register in the digit of its word that shifts leave
open. -/
structure Line where
  instruction : Instruction
  spare : Register
  deriving DecidableEq, Repr

namespace Line

/-- The word of a line. -/
def word (line : Line) : UInt16 :=
  match line.instruction with
  | .shiftRight x => UInt16.ofNat (Instruction.pairWord 0x8 x line.spare 0x6)
  | .shiftLeft x => UInt16.ofNat (Instruction.pairWord 0x8 x line.spare 0xE)
  | instruction => instruction.encode

/-- The high byte of the word comes first in memory. -/
def bytes (line : Line) : List UInt8 :=
  [UInt8.ofNat (line.word.toNat / 256), UInt8.ofNat line.word.toNat]

/-- A program in memory: the bytes of its lines, one after the other. -/
def assemble (lines : List Line) : List UInt8 :=
  lines.flatMap bytes

/-- With the open digit zero, lines are written as their instructions are encoded. -/
theorem bytes_of_zero (instruction : Instruction) :
    bytes ⟨instruction, ⟨0, by decide⟩⟩ = instruction.bytes := by
  cases instruction <;> rfl

/-- Words that begin with an eight are told apart by their last digit. -/
theorem decode_arithmetic (x y : Register) {last : Nat} (bound : last < 16) :
    Opcode.decode ⟨UInt16.ofNat (Instruction.pairWord 0x8 x y last)⟩ =
      Opcode.decodeArithmetic x y last := by
  have word : (UInt16.ofNat (Instruction.pairWord 0x8 x y last)).toNat =
      Instruction.pairWord 0x8 x y last := by
    have xBound := x.isLt
    have yBound := y.isLt
    rw [UInt16.toNat_ofNat', Instruction.pairWord]
    exact Nat.mod_eq_of_lt (by omega)
  generalize UInt16.ofNat (Instruction.pairWord 0x8 x y last) = number at word
  have fields : (Opcode.mk number).leading = 0x8 ∧ _ := Opcode.fields_of_pairWord word bound
  obtain ⟨leadingEq, xEq, yEq, nEq⟩ := fields
  simp only [Opcode.decode, leadingEq, xEq, yEq, nEq]

/-- Every line is read as what it was written for, whatever is in the open digit. -/
theorem decode_word (line : Line) : Opcode.decode ⟨line.word⟩ = some line.instruction := by
  obtain ⟨instruction, spare⟩ := line
  cases instruction
  case shiftRight x | shiftLeft x => exact decode_arithmetic x spare (by decide)
  all_goals exact Opcode.decode_encode _

/-- The bytes of a word make up the word again. -/
theorem ofBytes_bytes (word : UInt16) :
    Opcode.ofBytes (UInt8.ofNat (word.toNat / 256)) (UInt8.ofNat word.toNat) = ⟨word⟩ := by
  have bound := word.toNat_lt
  rw [Opcode.ofBytes]
  congr 1
  rw [← UInt16.toNat_inj]
  simp
  omega

@[simp] theorem length_assemble (lines : List Line) :
    (assemble lines).length = 2 * lines.length := by
  induction lines with
  | nil => rfl
  | cons line rest ih =>
      rw [assemble, List.flatMap_cons, List.length_append, ← assemble, ih, List.length_cons, bytes]
      simp
      omega

/-- The two bytes of a line lie at twice its number. -/
theorem getElem?_assemble {lines : List Line} {number : Nat} (inside : number < lines.length) :
    (assemble lines)[2 * number]? = some (UInt8.ofNat (lines[number].word.toNat / 256)) ∧
      (assemble lines)[2 * number + 1]? = some (UInt8.ofNat lines[number].word.toNat) := by
  induction lines generalizing number with
  | nil => exact absurd inside (Nat.not_lt_zero _)
  | cons line rest ih =>
      cases number with
      | zero => exact ⟨rfl, rfl⟩
      | succ number => exact ih (Nat.lt_of_succ_lt_succ inside)

end Line

namespace Machine

variable {machine : Machine} {instruction : Instruction} {fault : Fault}

/-! ## What straight instructions leave alone -/

/-- A straight instruction leaves memory and the latch as they are and goes on to the next word. -/
theorem perform_of_straight (machine : Machine) (straight : instruction.isStraight = true) :
    (machine.perform instruction).memory = machine.memory ∧
      (machine.perform instruction).keypad = machine.keypad ∧
      (machine.perform instruction).counter = machine.advance.counter := by
  rw [perform, memory_effect, keypad_effect, counter_effect]
  cases instruction <;> first | exact absurd straight Bool.false_ne_true | exact ⟨rfl, rfl, rfl⟩

/-- Only the end of memory is in the way of a straight instruction, if it reads memory. -/
theorem obstacle?_of_straight (straight : instruction.isStraight = true)
    (obstacle : machine.obstacle? instruction = some fault) :
    (∃ address, fault = .memoryOutOfBounds address) ∧ instruction.readsMemory = true := by
  have ranges : machine.obstacle? instruction =
      Memory.rangeFault? machine.index.toNat instruction.touched := by
    cases instruction <;> first | exact absurd straight Bool.false_ne_true | rfl
  rw [ranges, rangeFault?_eq_some_iff] at obstacle
  obtain ⟨touches, -, rfl⟩ := obstacle
  refine ⟨⟨_, rfl⟩, ?_⟩
  cases instruction <;>
    first
    | exact absurd straight Bool.false_ne_true
    | exact absurd touches (Nat.lt_irrefl 0)
    | rfl

/-! ## From line to line -/

/-- The machine has loaded a program, waits for no key, and stands before the line of a number. -/
structure AtLine (machine : Machine) (lines : List Line) (number : Nat) : Prop where
  memory : machine.memory = .ofImage (Line.assemble lines)
  ready : machine.keypad.awaiting = none
  counter : machine.counter.toNat = 0x200 + 2 * number

variable {lines : List Line} {number : Nat}

namespace AtLine

theorem boot (lines : List Line) (seed : UInt64) :
    (boot (Line.assemble lines) seed).AtLine lines 0 :=
  ⟨rfl, rfl, rfl⟩

/-- The word before which the machine stands is in the image at twice its number. -/
theorem opcode (atLine : machine.AtLine lines number) (inside : number < 1792) :
    machine.opcode = .ofBytes ((Line.assemble lines)[2 * number]?.getD 0)
      ((Line.assemble lines)[2 * number + 1]?.getD 0) := by
  have place (offset : Nat) (bound : offset < 3584) :
      machine.memory.cell (0x200 + offset) = (Line.assemble lines)[offset]?.getD 0 := by
    rw [atLine.memory, Memory.cell_ofImage _ (by simp [memorySize]; omega)]
    exact Memory.initialCell_image _ _
  rw [Machine.opcode, atLine.counter, Nat.add_assoc, place _ (by omega), place _ (by omega)]

/-- The line before which the machine stands is what it fetches. -/
theorem fetch (atLine : machine.AtLine lines number) (fits : lines.length ≤ 1792)
    (inside : number < lines.length) : machine.fetch = .ok lines[number].instruction := by
  obtain ⟨high, low⟩ := Line.getElem?_assemble inside
  apply fetch_of_decode
  · rw [atLine.counter, memorySize]
    omega
  · rw [atLine.opcode (by omega), high, low]
    exact (congrArg Opcode.decode (Line.ofBytes_bytes _)).trans (Line.decode_word _)

/-- A step executes the line before which the machine stands and leads to the next line, or the line
reads beyond memory. -/
theorem step (atLine : machine.AtLine lines number) (fits : lines.length ≤ 1792)
    (inside : number < lines.length) (straight : lines[number].instruction.isStraight = true) :
    (machine.step.1 = .executed lines[number].instruction ∧
        machine.step.2.AtLine lines (number + 1)) ∨
      ((∃ address, machine.step.1 = .faulted (.memoryOutOfBounds address)) ∧
        lines[number].instruction.readsMemory = true) := by
  have fetched := atLine.fetch fits inside
  cases obstacle : machine.obstacle? lines[number].instruction with
  | some fault =>
      obtain ⟨⟨address, rfl⟩, reads⟩ := obstacle?_of_straight straight obstacle
      have stuck : machine.Stuck (.memoryOutOfBounds address) :=
        ⟨atLine.ready, by rw [blocked?, fetched]; exact obstacle⟩
      exact .inr ⟨⟨address, step_faulted_iff.mpr stuck⟩, reads⟩
  | none =>
      obtain ⟨memory, keypad, counter⟩ := perform_of_straight machine straight
      rw [step_of_fetch atLine.ready fetched obstacle]
      refine .inl ⟨rfl, memory.trans atLine.memory, ?_, ?_⟩
      · exact (congrArg Keypad.awaiting keypad).trans atLine.ready
      · rw [counter, toNat_counter_of_fetch fetched, atLine.counter]
        omega

/-- Behind the last line there is no instruction, and behind the last line that fits there is no
memory. -/
theorem step_end (atLine : machine.AtLine lines number) (last : number = lines.length) :
    (lines.length < 1792 → machine.step.1 =
        .faulted (.invalidOpcode 0 (UInt16.ofNat (0x200 + 2 * lines.length)))) ∧
      (lines.length = 1792 → machine.step.1 = .faulted (.memoryOutOfBounds 4096)) := by
  subst last
  simp only [step_faulted_iff_causes atLine.ready]
  constructor
  · intro room
    have empty : machine.opcode = ⟨0⟩ := by
      rw [atLine.opcode room, List.getElem?_eq_none (by simp), List.getElem?_eq_none (by simp)]
      rfl
    rw [← atLine.counter, UInt16.ofNat_toNat]
    have cause : machine.Causes (.invalidOpcode machine.opcode.word machine.counter) := by
      refine .noInstruction ?_ (by rw [empty]; decide)
      rw [atLine.counter, memorySize]
      omega
    rwa [empty] at cause
  · intro full
    have counter : machine.counter.toNat = 4096 := by rw [atLine.counter, full]
    rw [← counter]
    exact .counterOutside (Nat.le_of_eq counter.symm)

theorem faults_at_end (atLine : machine.AtLine lines number) (last : number = lines.length)
    (fits : lines.length ≤ 1792) : ∃ fault, machine.step.1 = .faulted fault := by
  obtain ⟨ifRoom, ifFull⟩ := atLine.step_end last
  rcases Nat.lt_or_eq_of_le fits with room | full
  · exact ⟨_, ifRoom room⟩
  · exact ⟨_, ifFull full⟩

/-- Ticks and keys change neither the program nor the line. -/
theorem after (atLine : machine.AtLine lines number) {event : Event} (idle : event ≠ .step) :
    (machine.after event).AtLine lines number := by
  cases event with
  | step => exact absurd rfl idle
  | tick | release | acknowledge => exact ⟨atLine.memory, atLine.ready, atLine.counter⟩
  | press key =>
      rw [Machine.after, press_of_ready atLine.ready]
      exact ⟨atLine.memory, rfl, atLine.counter⟩

/-- As long as nothing faults, the steps execute the lines in order. -/
theorem afterAll (atLine : machine.AtLine lines number) (fits : lines.length ≤ 1792)
    (straight : ∀ line ∈ lines, line.instruction.isStraight = true) (inside : number ≤ lines.length)
    {events : List Event} (sound : ∀ fault, .faulted fault ∉ machine.outcomes events) :
    (machine.afterAll events).AtLine lines (number + events.count .step) ∧
      number + events.count .step ≤ lines.length ∧
      machine.outcomes events =
        ((lines.drop number).take (events.count .step)).map (.executed ·.instruction) := by
  induction events generalizing machine number with
  | nil => exact ⟨atLine, inside, rfl⟩
  | cons event rest ih =>
      cases event with
      | tick | press | release | acknowledge =>
          -- the steps, and what they come to, are those of the other events
          rw [List.count_cons_of_ne (by simp)]
          exact ih (atLine.after nofun) inside sound
      | step =>
          simp only [outcomes, List.mem_cons, not_or] at sound
          have notBehind : number ≠ lines.length := fun last => by
            obtain ⟨fault, faulted⟩ := atLine.faults_at_end last fits
            exact (sound fault).1 faulted.symm
          have more : number < lines.length := Nat.lt_of_le_of_ne inside notBehind
          rcases atLine.step fits more (straight _ (List.getElem_mem more)) with
            ⟨executed, next⟩ | ⟨⟨address, faulted⟩, -⟩
          · obtain ⟨last, within, course⟩ := ih next more fun fault => (sound fault).2
            rw [outcomes, executed, course, List.count_cons_self, List.drop_eq_getElem_cons more]
            refine ⟨?_, by omega, rfl⟩
            rw [Nat.add_comm _ 1, ← Nat.add_assoc]
            exact last
          · exact absurd faulted.symm (sound _).1

end AtLine

/-- Straight-line programs run as they are written. Let a program of up to 1792 lines be loaded,
none of which jumps, calls, returns, skips, waits for a key or stores into memory, and let anything
happen to the machine. As long as no step faults, the steps execute the lines from the first one on,
in order. The next step then starts at the next line, and executes it and leads to the line behind
it, unless the line is a sprite to draw or registers to load that reach beyond memory. The step
behind the last line finds no instruction, or no memory if the program fills it. And once a step
faults, every further step faults likewise. -/
theorem straight_line_in_order (fits : lines.length ≤ 1792)
    (straight : ∀ line ∈ lines, line.instruction.isStraight = true) (seed : UInt64)
    (events : List Event) :
    let start := Machine.boot (Line.assemble lines) seed
    let machine := start.afterAll events
    let number := events.count .step
    ((∀ fault, .faulted fault ∉ start.outcomes events) →
      number ≤ lines.length ∧
      start.outcomes events = (lines.take number).map (.executed ·.instruction) ∧
      machine.counter.toNat = 0x200 + 2 * number ∧
      (∀ more : number < lines.length,
        (machine.step = (.executed lines[number].instruction,
              machine.perform lines[number].instruction) ∧
            machine.step.2.counter.toNat = 0x200 + 2 * (number + 1)) ∨
          ((∃ address, machine.step = (.faulted (.memoryOutOfBounds address), machine)) ∧
            lines[number].instruction.readsMemory = true)) ∧
      (number = lines.length → lines.length < 1792 → machine.step =
        (.faulted (.invalidOpcode 0 (UInt16.ofNat (0x200 + 2 * lines.length))), machine)) ∧
      (number = lines.length → lines.length = 1792 →
        machine.step = (.faulted (.memoryOutOfBounds 4096), machine))) ∧
    ∀ fault, .faulted fault ∈ start.outcomes events → machine.step = (.faulted fault, machine) := by
  intro start machine number
  refine ⟨fun sound => ?_, fun fault faulted => (stuck_of_faulted faulted).step_eq⟩
  obtain ⟨atLine, within, course⟩ :=
    (AtLine.boot lines seed).afterAll fits straight (Nat.zero_le _) sound
  rw [Nat.zero_add] at atLine within
  have faults {fault : Fault} (faulted : machine.step.1 = .faulted fault) :
      machine.step = (.faulted fault, machine) := (step_faulted_iff.mp faulted).step_eq
  refine ⟨within, course, atLine.counter, fun more => ?line, fun last room => ?room,
    fun last full => ?full⟩
  case line =>
    rcases atLine.step fits more (straight _ (List.getElem_mem more)) with
      ⟨executed, next⟩ | ⟨⟨address, faulted⟩, reads⟩
    · obtain ⟨-, -, -, performed⟩ := course_of_executed executed
      exact .inl ⟨performed, next.counter⟩
    · exact .inr ⟨⟨address, faults faulted⟩, reads⟩
  case room => exact faults ((atLine.step_end last).1 room)
  case full => exact faults ((atLine.step_end last).2 full)

/-- A shift with a digit of its own in the open place, a tick and a key around it: the shift is
executed, and behind it there is no instruction. -/
theorem straight_line_in_order_shift :
    let lines : List Line := [⟨.shiftLeft offset, ⟨7, by decide⟩⟩]
    let start := Machine.boot [0x80, 0x7E] 0
    let events : List Event := [.tick, .step, .press ⟨3⟩]
    lines.length ≤ 1792 ∧ (∀ line ∈ lines, line.instruction.isStraight = true) ∧
      Line.assemble lines = [0x80, 0x7E] ∧
      start.outcomes events = [.executed (.shiftLeft offset)] ∧
      (start.afterAll events).step.1 = .faulted (.invalidOpcode 0 0x202) := by
  intro lines start events
  have fits : lines.length ≤ 1792 := by decide
  have straight : ∀ line ∈ lines, line.instruction.isStraight = true := by decide
  have assembled : Line.assemble lines = [0x80, 0x7E] := by decide
  have early := straight_line_in_order fits straight 0 [.tick]
  have late := straight_line_in_order fits straight 0 events
  rw [assembled] at early late
  obtain ⟨-, -, -, line, -, -⟩ := early.1 nofun
  rcases line (by decide) with ⟨performed, -⟩ | ⟨-, reads⟩
  · have course : start.outcomes events = [.executed (.shiftLeft offset)] := by
      show [(start.afterAll [.tick]).step.1] = _
      rw [performed]
      rfl
    obtain ⟨-, -, -, -, room, -⟩ := late.1 fun fault faulted => by
      cases List.mem_singleton.mp (course ▸ faulted)
    exact ⟨fits, straight, assembled, course, congrArg Prod.fst (room rfl (by decide))⟩
  · cases reads

end Machine

end Chip8
