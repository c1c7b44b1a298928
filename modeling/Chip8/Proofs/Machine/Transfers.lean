import Chip8.Proofs.Machine.Footprint
import Chip8.Proofs.Machine.Indexing

/-!
# Storing and loading

Two instructions store bytes from the index on: the values of registers, or the three decimal digits
of one of them. A third loads registers from there. `Meets.stores` and `Meets.loads` say which byte
goes where. So whatever happens between a store and a load, the load brings back what was stored,
as long as the index and the bytes behind it are kept: `Machine.transfers_round_trip`.
-/

namespace Chip8

theorem Registers.getElem_upTo (registers : Registers) {x y : Register}
    (low : y.val < (registers.upTo x).length) :
    (registers.upTo x)[y.val] = registers.get y := by
  simp [upTo, get]

/-- Three digits make up a byte. -/
theorem decimalDigits_spec (value : UInt8) :
    ∃ hundreds tens ones : UInt8, decimalDigits value = [hundreds, tens, ones] ∧
      hundreds.toNat ≤ 9 ∧ tens.toNat ≤ 9 ∧ ones.toNat ≤ 9 ∧
      100 * hundreds.toNat + 10 * tens.toNat + ones.toNat = value.toNat := by
  have bound := value.toNat_lt
  refine ⟨_, _, _, rfl, ?_, ?_, ?_, ?_⟩ <;>
    simp only [UInt8.toNat_div, UInt8.toNat_mod, UInt8.reduceToNat] <;> omega

namespace Machine

/-- The bytes that an instruction stores from the index on, if it stores any. -/
def stores? (machine : Machine) : Instruction → Option (List UInt8)
  | .storeDecimal x => some (decimalDigits (machine.reg x))
  | .storeRegisters x => some (machine.registers.upTo x)
  | _ => none

/-- A later machine has the index that a machine had, and the same bytes from there on. -/
structure KeepsBytes (machine : Machine) (length : Nat) (later : Machine) : Prop where
  index : later.index = machine.index
  cells : ∀ place, place < length →
    later.memory.cell (machine.index.toNat + place) =
      machine.memory.cell (machine.index.toNat + place)

variable {machine later : Machine} {instruction : Instruction} {values : List UInt8}
  {x y : Register}

theorem touched_of_stores? (stores : machine.stores? instruction = some values) :
    instruction.touched = values.length := by
  cases instruction with
  | storeDecimal => cases stores; rfl
  | storeRegisters x => cases stores; exact (machine.registers.length_upTo x).symm
  | _ => cases stores

theorem memory_perform_of_stores? (stores : machine.stores? instruction = some values) :
    (machine.perform instruction).memory = machine.memory.store machine.index.toNat values := by
  rw [perform, memory_effect]
  cases instruction with
  | storeDecimal => cases stores; rfl
  | storeRegisters => cases stores; rfl
  | _ => cases stores

/-- An instruction that stores bytes is executed if they fit in memory behind the index, and then
lie there in order. -/
theorem Meets.stores (meets : machine.Meets instruction)
    (stores : machine.stores? instruction = some values) (nonempty : 0 < values.length)
    (inside : machine.index.toNat + values.length ≤ memorySize) :
    machine.step.1 = .executed instruction ∧ machine.step.2.index = machine.index ∧
      ∀ place (small : place < values.length),
        machine.step.2.memory.cell (machine.index.toNat + place) = values[place] := by
  have touched := touched_of_stores? stores
  have course := step_of_touches meets.ready meets.fetched (touched ▸ nonempty)
  rw [if_pos (touched ▸ inside)] at course
  rw [course]
  refine ⟨rfl, ?_, fun place small => ?_⟩
  · rw [perform, index_effect]
    cases instruction with
    | storeDecimal | storeRegisters => rfl
    | _ => cases stores
  · rw [memory_perform_of_stores? stores]
    exact machine.memory.cell_store_of_inside small (by omega)

/-- An instruction that loads registers is executed if their bytes at the index lie in memory. -/
theorem Meets.loads (meets : machine.Meets (.loadRegisters y))
    (inside : machine.index.toNat + y.val < memorySize) :
    machine.step.1 = .executed (.loadRegisters y) ∧
      ∀ x ≤ y, machine.step.2.reg x = machine.memory.cell (machine.index.toNat + x.val) := by
  rw [(step_of_touches meets.ready meets.fetched (Nat.succ_pos y.val)).trans (if_pos inside)]
  refine ⟨rfl, fun x low => ?_⟩
  exact (reg_loadFromIndex machine.advance y x).trans (if_pos (Nat.lt_succ_of_le low))

/-- What is executed changes no part outside its footprint but the counter. -/
theorem differsOnlyIn_step (executed : machine.step.1 = .executed instruction) :
    machine.DiffersOnlyIn (machine.footprint instruction) machine.step.2 :=
  (KeepsTo.step executed).parts

/-- Registers that are loaded from bytes that were kept receive these bytes. -/
theorem Meets.loads_kept {length : Nat} (meets : later.Meets (.loadRegisters y))
    (kept : machine.KeepsBytes length later) (small : y.val < length)
    (inside : machine.index.toNat + length ≤ memorySize) :
    later.step.1 = .executed (.loadRegisters y) ∧
      (∀ x ≤ y, later.step.2.reg x = machine.memory.cell (machine.index.toNat + x.val)) ∧
      later.DiffersOnlyIn (Part.register '' Set.Iic y) later.step.2 := by
  obtain ⟨executed, loaded⟩ := meets.loads (by rw [kept.index]; omega)
  refine ⟨executed, fun x low => ?_, differsOnlyIn_step executed⟩
  rw [loaded x low, kept.index]
  exact kept.cells x.val (Nat.lt_of_le_of_lt low small)

/-- What is stored can be loaded again. If the registers up to one are stored within memory, they lie
there in order, and nothing else changes. Whatever happens then, as long as it leaves the index and
these bytes as they are, a load of no more registers brings back their values and changes nothing
else. The same is true of the three digits of a register, which lie in memory hundreds first. -/
theorem transfers_round_trip (machine : Machine) (x : Register) :
    let start := machine.index.toNat
    let stored := machine.step.2
    (machine.Meets (.storeRegisters x) → start + x.val ≤ 4095 →
      machine.step.1 = .executed (.storeRegisters x) ∧
      (∀ y ≤ x, stored.memory.cell (start + y.val) = machine.reg y) ∧
      machine.DiffersOnlyIn (Part.cell '' Set.Icc start (start + x.val)) stored ∧
      ∀ events y, y ≤ x →
        let later := stored.afterAll events
        stored.KeepsBytes (x.val + 1) later → later.Meets (.loadRegisters y) →
          later.step.1 = .executed (.loadRegisters y) ∧
          (∀ z ≤ y, later.step.2.reg z = machine.reg z) ∧
          later.DiffersOnlyIn (Part.register '' Set.Iic y) later.step.2) ∧
    (machine.Meets (.storeDecimal x) → start + 2 ≤ 4095 →
      machine.step.1 = .executed (.storeDecimal x) ∧
      ∃ hundreds tens ones : UInt8,
        hundreds.toNat ≤ 9 ∧ tens.toNat ≤ 9 ∧ ones.toNat ≤ 9 ∧
        100 * hundreds.toNat + 10 * tens.toNat + ones.toNat = (machine.reg x).toNat ∧
        stored.memory.cell start = hundreds ∧ stored.memory.cell (start + 1) = tens ∧
        stored.memory.cell (start + 2) = ones ∧
        machine.DiffersOnlyIn (Part.cell '' Set.Ico start (start + 3)) stored ∧
        ∀ events,
          let later := stored.afterAll events
          stored.KeepsBytes 3 later → later.Meets (.loadRegisters 2) →
            later.step.1 = .executed (.loadRegisters 2) ∧
            later.step.2.reg 0 = hundreds ∧ later.step.2.reg 1 = tens ∧
            later.step.2.reg 2 = ones ∧
            later.DiffersOnlyIn (Part.register '' Set.Iic 2) later.step.2) := by
  intro start stored
  constructor
  · intro meets inside
    have length := machine.registers.length_upTo x
    obtain ⟨executed, index, cells⟩ := meets.stores rfl (by omega)
      (by rw [length, memorySize]; omega)
    have written (y : Register) (low : y ≤ x) :
        stored.memory.cell (start + y.val) = machine.reg y := by
      rw [cells y.val (by rw [length]; exact Nat.lt_succ_of_le low)]
      exact machine.registers.getElem_upTo _
    refine ⟨executed, written, differsOnlyIn_step executed, ?_⟩
    intro events y low later kept load
    obtain ⟨executed', loaded, elsewhere⟩ := load.loads_kept kept (Nat.lt_succ_of_le low)
      (by rw [index, memorySize]; omega)
    refine ⟨executed', fun z small => ?_, elsewhere⟩
    rw [loaded z small, index]
    exact written z (le_trans small low)
  · intro meets inside
    obtain ⟨hundreds, tens, ones, digits, first, second, third, total⟩ :=
      decimalDigits_spec (machine.reg x)
    have stores : machine.stores? (.storeDecimal x) = some [hundreds, tens, ones] :=
      congrArg some digits
    obtain ⟨executed, index, cells⟩ := meets.stores stores (Nat.succ_pos 2)
      (by rw [memorySize]; exact Nat.succ_le_succ inside)
    have written : stored.memory.cell start = hundreds ∧ stored.memory.cell (start + 1) = tens ∧
        stored.memory.cell (start + 2) = ones :=
      ⟨cells 0 (by simp), cells 1 (by simp), cells 2 (by simp)⟩
    refine ⟨executed, hundreds, tens, ones, first, second, third, total, written.1, written.2.1,
      written.2.2, differsOnlyIn_step executed, ?_⟩
    intro events later kept load
    obtain ⟨executed', loaded, elsewhere⟩ := load.loads_kept kept (by decide)
      (by rw [index, memorySize]; exact Nat.succ_le_succ inside)
    rw [index] at loaded
    exact ⟨executed', (loaded 0 (by decide)).trans written.1,
      (loaded 1 (by decide)).trans written.2.1, (loaded 2 (by decide)).trans written.2.2, elsewhere⟩

/-- A machine at the second word of a program, which is some instruction; the first word has set a
register to 254. -/
structure AtSecondWord (machine : Machine) (image : List UInt8) (instruction : Instruction) :
    Prop where
  meets : machine.Meets instruction
  memory : machine.memory = .ofImage image
  index : machine.index.toNat = 0
  counter : machine.counter.toNat = 0x202
  value : (machine.reg 0).toNat = 254

theorem AtSecondWord.start {image : List UInt8}
    (first : (Opcode.ofBytes (Memory.initialCell image.toArray 0x200)
      (Memory.initialCell image.toArray 0x201)).decode = some (.setConstant 0 254))
    (second : (Opcode.ofBytes (Memory.initialCell image.toArray 0x202)
      (Memory.initialCell image.toArray 0x203)).decode = some instruction) :
    ((boot image 0).afterAll [.step]).AtSecondWord image instruction := by
  have inside : 0x200 + 2 ≤ memorySize ∧ 0x202 + 2 ≤ memorySize := by decide
  have course : (boot image 0).step = (.executed (.setConstant 0 254), _) :=
    step_of_fetch rfl (fetch_of_image rfl inside.1 first) (Memory.rangeFault?_zero _)
  rw [(executions_of_step course).2]
  exact ⟨⟨rfl, fetch_of_image rfl inside.2 second⟩, rfl, rfl, rfl, rfl⟩

/-- If that instruction changes cells below the program only, the next step is about the third
word. -/
theorem AtSecondWord.next {image : List UInt8} {cells : Set Nat} {third : Instruction}
    (second : machine.AtSecondWord image instruction)
    (differs : machine.DiffersOnlyIn (Part.cell '' cells) machine.step.2)
    (low : ∀ place ∈ cells, place < 0x200) (counter : machine.step.2.counter.toNat = 0x204)
    (decoded : (Opcode.ofBytes (Memory.initialCell image.toArray 0x204)
      (Memory.initialCell image.toArray 0x205)).decode = some third) :
    machine.step.2.Meets third := by
  have code {place : Nat} (high : 0x200 ≤ place) (inside : place < memorySize) :
      machine.step.2.memory.cell place = Memory.initialCell image.toArray place := by
    rw [← Memory.cell_ofImage image inside, ← second.memory]
    refine differs (.cell place) ?_ nofun
    rintro ⟨_, changed, ⟨⟩⟩
    exact Nat.not_lt.mpr high (low place changed)
  have latch : machine.step.2.keypad.awaiting = machine.keypad.awaiting :=
    differs .latch (by simp) nofun
  have inside : 0x204 + 2 ≤ memorySize := by decide
  refine ⟨latch.trans second.meets.ready, fetch_of_decode (by rw [counter]; exact inside) ?_⟩
  rw [opcode, counter, code (by decide) (by decide), code (by decide) (by decide)]
  exact decoded

/-- Two programs that set a register to 254 and store it, the one as it is, the other as three
digits. What they load again is what they have stored. -/
theorem transfers_round_trip_loaded :
    let dumping := (boot [0x60, 0xFE, 0xF0, 0x55, 0xF0, 0x65] 0).afterAll [.step]
    let counting := (boot [0x60, 0xFE, 0xF0, 0x33, 0xF2, 0x65] 0).afterAll [.step]
    dumping.Meets (.storeRegisters 0) ∧ dumping.step.2.Meets (.loadRegisters 0) ∧
      dumping.step.2.step.2.reg 0 = 254 ∧
      counting.Meets (.storeDecimal 0) ∧ counting.step.2.Meets (.loadRegisters 2) ∧
      counting.step.2.step.2.reg 0 = 2 ∧ counting.step.2.step.2.reg 1 = 5 ∧
      counting.step.2.step.2.reg 2 = 4 := by
  intro dumping counting
  have dump (machine : Machine)
      (second : machine.AtSecondWord [0x60, 0xFE, 0xF0, 0x55, 0xF0, 0x65] (.storeRegisters 0)) :
      machine.step.2.Meets (.loadRegisters 0) ∧ machine.step.2.step.2.reg 0 = 254 := by
    obtain ⟨executed, -, differs, back⟩ :=
      (transfers_round_trip machine 0).1 second.meets (by rw [second.index]; decide)
    have next := (KeepsTo.step executed).counter
    rw [second.index] at differs
    have load : machine.step.2.Meets (.loadRegisters 0) :=
      second.next differs (by simp) (next.trans (by rw [second.counter])) (by decide)
    obtain ⟨-, loaded, -⟩ := back [] 0 (le_refl 0) ⟨rfl, fun _ _ => rfl⟩ load
    exact ⟨load, (loaded 0 (le_refl 0)).trans (UInt8.toNat_inj.mp second.value)⟩
  have count (machine : Machine)
      (second : machine.AtSecondWord [0x60, 0xFE, 0xF0, 0x33, 0xF2, 0x65] (.storeDecimal 0)) :
      machine.step.2.Meets (.loadRegisters 2) ∧ machine.step.2.step.2.reg 0 = 2 ∧
        machine.step.2.step.2.reg 1 = 5 ∧ machine.step.2.step.2.reg 2 = 4 := by
    obtain ⟨executed, hundreds, tens, ones, _, _, _, total, -, -, -, differs, back⟩ :=
      (transfers_round_trip machine 0).2 second.meets (by rw [second.index]; decide)
    have next := (KeepsTo.step executed).counter
    rw [second.index] at differs
    have load : machine.step.2.Meets (.loadRegisters 2) :=
      second.next differs (by simp; omega) (next.trans (by rw [second.counter])) (by decide)
    obtain ⟨-, first, middle, last, -⟩ := back [] ⟨rfl, fun _ _ => rfl⟩ load
    have digits : hundreds.toNat = 2 ∧ tens.toNat = 5 ∧ ones.toNat = 4 := by
      rw [second.value] at total
      omega
    exact ⟨load, first.trans (UInt8.toNat_inj.mp digits.1),
      middle.trans (UInt8.toNat_inj.mp digits.2.1), last.trans (UInt8.toNat_inj.mp digits.2.2)⟩
  have dumps : dumping.AtSecondWord _ (.storeRegisters 0) := .start (by decide) (by decide)
  have counts : counting.AtSecondWord _ (.storeDecimal 0) := .start (by decide) (by decide)
  obtain ⟨load, loaded⟩ := dump dumping dumps
  obtain ⟨load', digits⟩ := count counting counts
  exact ⟨dumps.meets, load, loaded, counts.meets, load', digits⟩

end Machine

end Chip8
