import Chip8.Proofs.Machine.Faults
import Mathlib.Order.Bounds.Basic

/-!
# The causes of faults

`Machine.Causes` lists, rule by rule, what is wrong with a machine whose step faults, and which
fault reports it: the counter leads out of memory, the word there is no instruction, a return has
no call to return from, a call finds the stack full, or a span of bytes leaves memory.
`Machine.step_verdict` says that a machine that does not wait faults by these rules, by no others,
and executes the instruction that it finds in every other case.
-/

namespace Chip8

/-- How many bytes an instruction that reaches memory through the index touches from there on. -/
inductive Instruction.Spans : Instruction → Nat → Prop
  /-- A sprite has one byte for each row. -/
  | sprite (x y : Register) (height : Fin 16) : Spans (.draw x y height) height.val
  /-- A byte has three decimal digits. -/
  | digits (x : Register) : Spans (.storeDecimal x) 3
  /-- There is one byte for each register up to the one that is named. -/
  | stored (x : Register) : Spans (.storeRegisters x) (x.val + 1)
  | loaded (x : Register) : Spans (.loadRegisters x) (x.val + 1)

namespace Machine

/-- The word at the counter lies in memory and stands for an instruction. -/
structure Finds (machine : Machine) (instruction : Instruction) : Prop where
  inside : machine.counter.toNat + 2 ≤ memorySize
  decoded : machine.opcode.decode = some instruction

/-- What keeps a machine from executing the instruction at its counter, and the fault that reports
it. -/
inductive Causes (machine : Machine) : Fault → Prop
  | counterOutside (outside : memorySize ≤ machine.counter.toNat) :
      Causes machine (.memoryOutOfBounds machine.counter.toNat)
  /-- Only the first byte of the word lies in memory. -/
  | wordCut (last : machine.counter.toNat + 1 = memorySize) :
      Causes machine (.memoryOutOfBounds memorySize)
  | noInstruction (inside : machine.counter.toNat + 2 ≤ memorySize)
      (unknown : machine.opcode.decode = none) :
      Causes machine (.invalidOpcode machine.opcode.word machine.counter)
  | noCall (finds : machine.Finds .ret) (empty : machine.registers.stack.depth = 0) :
      Causes machine (.stackUnderflow machine.counter)
  | noRoom {target : Address} (finds : machine.Finds (.call target))
      (full : machine.registers.stack.depth = stackSize) :
      Causes machine (.stackOverflow machine.counter)
  /-- A span that is not empty leaves memory. -/
  | spanOutside {instruction : Instruction} {length : Nat} (finds : machine.Finds instruction)
      (spans : instruction.Spans length) (nonempty : 0 < length)
      (outside : memorySize < machine.index.toNat + length) :
      Causes machine (.memoryOutOfBounds (max machine.index.toNat memorySize))

variable {machine : Machine} {instruction : Instruction} {fault : Fault}

/-! ## Fetching -/

theorem fetch_eq_ok_iff : machine.fetch = .ok instruction ↔ machine.Finds instruction :=
  ⟨fun fetched => ⟨counter_add_two_le_of_fetch fetched, decode_of_fetch fetched⟩,
    fun finds => fetch_of_decode finds.inside finds.decoded⟩

theorem fetch_of_counterOutside (outside : memorySize ≤ machine.counter.toNat) :
    machine.fetch = .error (.memoryOutOfBounds machine.counter.toNat) := by
  have refused : machine.memory.read machine.counter.toNat =
      .error (.memoryOutOfBounds machine.counter.toNat) := if_neg (Nat.not_lt.mpr outside)
  simp only [fetch, refused]

theorem fetch_of_wordCut (last : machine.counter.toNat + 1 = memorySize) :
    machine.fetch = .error (.memoryOutOfBounds memorySize) := by
  have high : machine.memory.read machine.counter.toNat =
      .ok (machine.memory.cell machine.counter.toNat) := if_pos (by omega)
  have refused : machine.memory.read memorySize = .error (.memoryOutOfBounds memorySize) :=
    if_neg (Nat.lt_irrefl _)
  simp only [fetch, high, last, refused]

/-! ## Obstacles -/

/-- The instructions that span bytes meet no obstacle but the end of memory. -/
theorem obstacle?_of_spans {length : Nat} (spans : instruction.Spans length) :
    machine.obstacle? instruction = Memory.rangeFault? machine.index.toNat length := by
  cases spans <;> rfl

/-- A range is refused exactly if it is not empty and leaves memory. -/
theorem rangeFault?_eq_some_iff {address length : Nat} :
    Memory.rangeFault? address length = some fault ↔
      0 < length ∧ memorySize < address + length ∧
        fault = .memoryOutOfBounds (max address memorySize) := by
  rw [Memory.rangeFault?]
  split_ifs with accepted
  · constructor
    · rintro ⟨⟩
    · rintro ⟨nonempty, outside, -⟩
      omega
  · rw [not_or] at accepted
    simp [Nat.pos_of_ne_zero accepted.1, Nat.lt_of_not_le accepted.2, eq_comm]

/-- Whatever stands in the way of an instruction that was found is a cause of the fault. -/
theorem causes_of_obstacle? (finds : machine.Finds instruction)
    (obstacle : machine.obstacle? instruction = some fault) : machine.Causes fault := by
  have ranges {length : Nat} (spans : instruction.Spans length) : machine.Causes fault := by
    rw [obstacle?_of_spans spans, rangeFault?_eq_some_iff] at obstacle
    obtain ⟨nonempty, outside, rfl⟩ := obstacle
    exact .spanOutside finds spans nonempty outside
  cases instruction with
  | ret =>
      rw [obstacle?, Option.ite_none_right_eq_some] at obstacle
      obtain ⟨empty, ⟨⟩⟩ := obstacle
      exact .noCall finds empty
  | call target =>
      rw [obstacle?, Option.ite_none_right_eq_some] at obstacle
      obtain ⟨full, ⟨⟩⟩ := obstacle
      exact .noRoom finds full
  | draw x y height => exact ranges (.sprite x y height)
  | storeDecimal x => exact ranges (.digits x)
  | storeRegisters x => exact ranges (.stored x)
  | loadRegisters x => exact ranges (.loaded x)
  | _ => cases obstacle.symm.trans (Memory.rangeFault?_zero _)

/-! ## What blocks the next instruction -/

theorem causes_of_blocked? (blocked : machine.blocked? = some fault) : machine.Causes fault := by
  rw [blocked?] at blocked
  by_cases outside : memorySize ≤ machine.counter.toNat
  · rw [fetch_of_counterOutside outside] at blocked
    cases blocked
    exact .counterOutside outside
  by_cases last : machine.counter.toNat + 1 = memorySize
  · rw [fetch_of_wordCut last] at blocked
    cases blocked
    exact .wordCut last
  have inside : machine.counter.toNat + 2 ≤ memorySize := by omega
  rw [fetch_of_inside inside] at blocked
  cases decoded : machine.opcode.decode with
  | none =>
      rw [decoded] at blocked
      cases blocked
      exact .noInstruction inside decoded
  | some instruction =>
      rw [decoded] at blocked
      exact causes_of_obstacle? ⟨inside, decoded⟩ blocked

theorem blocked?_of_causes (causes : machine.Causes fault) : machine.blocked? = some fault := by
  rw [blocked?]
  cases causes with
  | counterOutside outside => rw [fetch_of_counterOutside outside]
  | wordCut last => rw [fetch_of_wordCut last]
  | noInstruction inside unknown => rw [fetch_of_inside inside, unknown]
  | noCall finds empty =>
      rw [fetch_eq_ok_iff.mpr finds]
      exact if_pos empty
  | noRoom finds full =>
      rw [fetch_eq_ok_iff.mpr finds]
      exact if_pos full
  | spanOutside finds spans nonempty outside =>
      rw [fetch_eq_ok_iff.mpr finds]
      exact (obstacle?_of_spans spans).trans
        (rangeFault?_eq_some_iff.mpr ⟨nonempty, outside, rfl⟩)

/-- A machine that does not wait faults with what it has a cause for. -/
theorem step_faulted_iff_causes (ready : machine.keypad.awaiting = none) :
    machine.step.1 = .faulted fault ↔ machine.Causes fault := by
  rw [step_faulted_iff]
  constructor
  · intro stuck
    exact causes_of_blocked? stuck.blocked
  · intro causes
    exact ⟨ready, blocked?_of_causes causes⟩

/-- A machine that does not wait executes what it finds, unless it has a cause for a fault. -/
theorem step_executed_iff (ready : machine.keypad.awaiting = none) :
    machine.step.1 = .executed instruction ↔
      machine.Finds instruction ∧ ∀ fault, ¬machine.Causes fault := by
  constructor
  · intro executed
    obtain ⟨-, fetched, -, -⟩ := course_of_executed executed
    refine ⟨fetch_eq_ok_iff.mp fetched, fun fault causes => ?_⟩
    have faulted := (step_faulted_iff_causes ready).mpr causes
    cases executed.symm.trans faulted
  · rintro ⟨finds, free⟩
    have fetched := fetch_eq_ok_iff.mpr finds
    have noObstacle : machine.obstacle? instruction = none :=
      Option.eq_none_iff_forall_ne_some.mpr fun fault obstacle =>
        free fault (causes_of_obstacle? finds obstacle)
    rw [step_of_fetch ready fetched noObstacle]

/-- Why a step faults, and with what. A machine that does not wait for a key faults exactly with
what it has a cause for, and executes exactly the instruction that it finds when there is no cause
for a fault. If an instruction that spans bytes reports a fault of memory, it names the least
address outside memory among those that the instruction would touch. A sprite of no rows touches
none, so it is drawn wherever the index leads. -/
theorem step_verdict (ready : machine.keypad.awaiting = none) :
    machine.step.1 ≠ .waiting ∧
    (∀ fault, machine.step.1 = .faulted fault ↔ machine.Causes fault) ∧
    (∀ instruction, machine.step.1 = .executed instruction ↔
      machine.Finds instruction ∧ ∀ fault, ¬machine.Causes fault) ∧
    (∀ instruction length address, machine.Finds instruction → instruction.Spans length →
      machine.step.1 = .faulted (.memoryOutOfBounds address) →
        IsLeast {place | machine.index.toNat ≤ place ∧ place < machine.index.toNat + length ∧
          memorySize ≤ place} address) ∧
    ∀ x y height, height.val = 0 → machine.Finds (.draw x y height) →
      machine.step.1 = .executed (.draw x y height) := by
  refine ⟨?acts, fun _ => step_faulted_iff_causes ready, fun _ => step_executed_iff ready,
    ?least, ?empty⟩
  case acts =>
    intro waits
    rcases machine.step_cases with ⟨waiting, _⟩ | ⟨_, _, course⟩ | ⟨_, _, _, _, course⟩
    · rw [ready] at waiting
      cases waiting
    · rw [course] at waits
      cases waits
    · rw [course] at waits
      cases waits
  case least =>
    intro instruction length address finds spans faulted
    have blocked := (step_faulted_iff.mp faulted).blocked
    rw [blocked?, fetch_eq_ok_iff.mpr finds] at blocked
    obtain ⟨nonempty, outside, same⟩ :=
      rangeFault?_eq_some_iff.mp ((obstacle?_of_spans spans).symm.trans blocked)
    cases same
    refine ⟨⟨Nat.le_max_left _ _, ?_, Nat.le_max_right _ _⟩, ?_⟩
    · omega
    · rintro place ⟨above, -, high⟩
      exact Nat.max_le.mpr ⟨above, high⟩
  case empty =>
    intro x y height noRows finds
    have free : machine.obstacle? (.draw x y height) = none := by
      rw [obstacle?_of_spans (.sprite x y height), noRows]
      exact Memory.rangeFault?_zero _
    rw [step_of_fetch ready (fetch_eq_ok_iff.mpr finds) free]

/-- Sixteen registers stored fifteen bytes before the end of memory: the last of them has no place,
and its address is reported. -/
theorem step_verdict_last_register :
    let machine := (boot [0xAF, 0xF1, 0xFF, 0x55] 0).afterAll [.step]
    machine.keypad.awaiting = none ∧ machine.step.1 = .faulted (.memoryOutOfBounds 4096) := by
  have points : (boot [0xAF, 0xF1, 0xFF, 0x55] 0).step =
      (.executed (.setIndex ⟨0xFF1, by decide⟩), _) :=
    step_of_fetch rfl (fetch_of_image rfl (by decide) (by decide)) (Memory.rangeFault?_zero _)
  rw [(executions_of_step points).2]
  intro machine
  have ready : machine.keypad.awaiting = none := rfl
  have finds : machine.Finds (.storeRegisters flag) :=
    fetch_eq_ok_iff.mp (fetch_of_image rfl (by decide) (by decide))
  have causes : machine.Causes (.memoryOutOfBounds 4096) :=
    .spanOutside finds (.stored flag) (by decide) (by decide)
  exact ⟨ready, ((step_verdict ready).2.1 _).mpr causes⟩

end Machine

end Chip8
