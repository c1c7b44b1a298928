import Chip8.Proofs.Machine.Calls
import Chip8.Proofs.Machine.Independence
import Mathlib.Data.Set.Image
import Mathlib.Order.Interval.Set.Defs

/-!
# Footprints

A machine consists of parts that can be looked at one by one, down to single cells, registers and
keys (`Part`, `eq_of_sameAt`). The footprint of an instruction lists the parts that it may change
besides the counter, and `Machine.destinations` where it may lead the counter. Ticks, keys and the
note on the screen have footprints of the same kind, so that a part outside all footprints of a
course of events is at its end what it was at its start (`sameAt_afterAll`).
`Machine.keeps_to_footprint` says this of a single step and of any course of events, with what an
instruction does to the call stack and to the keys it has asked for, and which skips decide against
each other.
-/

namespace Chip8

/-- What can be looked at in a machine on its own. -/
inductive Part where
  | cell (address : Nat)
  | register (x : Register)
  | index
  | counter
  | stack
  | delay
  | sound
  | held (key : Key)
  | latch
  | screen
  | random
  | tested (key : Key)
  /-- Whether the screen may have changed. -/
  | note
  deriving DecidableEq, Repr

namespace Machine

/-- A part of a later machine is what it was. -/
def SameAt (machine later : Machine) : Part → Prop
  | .cell address => later.memory.cell address = machine.memory.cell address
  | .register x => later.reg x = machine.reg x
  | .index => later.index = machine.index
  | .counter => later.counter = machine.counter
  | .stack => later.registers.stack = machine.registers.stack
  | .delay => later.timers.delay = machine.timers.delay
  | .sound => later.timers.sound = machine.timers.sound
  | .held key => later.keypad.isHeld key = machine.keypad.isHeld key
  | .latch => later.keypad.awaiting = machine.keypad.awaiting
  | .screen => later.screen = machine.screen
  | .random => later.random = machine.random
  | .tested key => later.tested.contains key = machine.tested.contains key
  | .note => later.screenChanged = machine.screenChanged

/-- Only some parts and the counter of a later machine are not what they were. -/
def DiffersOnlyIn (machine : Machine) (parts : Set Part) (later : Machine) : Prop :=
  ∀ part, part ∉ parts → part ≠ .counter → machine.SameAt later part

/-- The parts that an instruction may change, besides the counter. -/
def footprint (machine : Machine) : Instruction → Set Part
  | .clearScreen => {.screen, .note}
  | .ret | .call _ => {.stack}
  | .setConstant x _ | .addConstant x _ | .copy x _ | .bitOr x _ | .bitAnd x _ | .bitXor x _
  | .readDelay x => {.register x}
  | .add x _ | .subtract x _ | .subtractFrom x _ | .shiftRight x | .shiftLeft x =>
      {.register x, .register flag}
  | .random x _ => {.register x, .random}
  | .draw _ _ _ => {.register flag, .screen, .note}
  | .setIndex _ | .addToIndex _ | .indexGlyph _ => {.index}
  | .skipIfPressed x | .skipUnlessPressed x => Part.tested '' {key | machine.reg x = key.byte}
  | .waitForKey _ => {.latch}
  | .setDelay _ => {.delay}
  | .setSound _ => {.sound}
  | .storeDecimal _ => Part.cell '' Set.Ico machine.index.toNat (machine.index.toNat + 3)
  | .storeRegisters x => Part.cell '' Set.Icc machine.index.toNat (machine.index.toNat + x.val)
  | .loadRegisters x => Part.register '' Set.Iic x
  | .jump _ | .jumpOffset _ | .skipIfConstant _ _ | .skipUnlessConstant _ _ | .skipIfSame _ _
  | .skipUnlessSame _ _ => ∅

/-- The addresses at which a machine may continue behind an instruction. -/
def destinations (machine : Machine) : Instruction → Set Nat
  | .ret => {address | machine.returns.getLast? = some address}
  | .jump target | .call target => {target.val}
  | .jumpOffset target => {target.val + (machine.reg offset).toNat}
  | .waitForKey _ => {machine.counter.toNat}
  | .skipIfConstant _ _ | .skipUnlessConstant _ _ | .skipIfSame _ _ | .skipUnlessSame _ _
  | .skipIfPressed _ | .skipUnlessPressed _ =>
      {machine.counter.toNat + 2, machine.counter.toNat + 4}
  | _ => {machine.counter.toNat + 2}

/-- What an instruction that is executed makes of a machine is confined to its footprint. -/
structure KeepsTo (machine : Machine) (instruction : Instruction) (later : Machine) : Prop where
  parts : machine.DiffersOnlyIn (machine.footprint instruction) later
  counter : later.counter.toNat ∈ machine.destinations instruction
  /-- A key that was asked for stays so. -/
  tested : ∀ key, machine.tested.contains key = true → later.tested.contains key = true
  /-- A call puts one return address on top of the others. -/
  called : ∀ target, instruction = .call target →
    later.returns = machine.returns ++ [machine.counter.toNat + 2]
  /-- A return takes away the topmost return address, at which it continues. -/
  returned : instruction = .ret → machine.returns = later.returns ++ [later.counter.toNat]

/-- Two skips of opposite sense that find the same operands in two machines, and the same keys held
if they ask for one. -/
inductive Opposed (machine other : Machine) : Instruction → Instruction → Prop
  | constants {x y : Register} (n : UInt8) (value : machine.reg x = other.reg y) :
      Opposed machine other (.skipIfConstant x n) (.skipUnlessConstant y n)
  | registers {x y x' y' : Register} (first : machine.reg x = other.reg x')
      (second : machine.reg y = other.reg y') :
      Opposed machine other (.skipIfSame x y) (.skipUnlessSame x' y')
  | keys {x y : Register} (code : machine.reg x = other.reg y)
      (held : machine.keypad.held = other.keypad.held) :
      Opposed machine other (.skipIfPressed x) (.skipUnlessPressed y)

/-- The parts that an event may change. -/
def eventFootprint (machine : Machine) : Event → Set Part
  | .step =>
      match machine.executed? .step with
      | some instruction => insert .counter (machine.footprint instruction)
      | none => ∅
  | .tick => {.delay, .sound}
  | .press key =>
      insert (.held key) <|
        match machine.keypad.awaiting with
        | some x => {.latch, .register x, .counter}
        | none => ∅
  | .release key => {.held key}
  | .acknowledge => {.note}

variable {machine later last other : Machine} {instruction : Instruction} {part : Part}
  {event : Event} {events : List Event}

/-! ## Parts -/

/-- A machine has no other parts. -/
theorem eq_of_sameAt (same : ∀ part, machine.SameAt later part) : later = machine := by
  cases machine with | mk _ registers timers keypad =>
  cases later with | mk _ registers' timers' keypad' =>
  cases registers with | mk => cases registers' with | mk =>
  cases timers with | mk => cases timers' with | mk =>
  cases keypad with | mk => cases keypad' with | mk =>
  simp only [mk.injEq, Registers.mk.injEq, Timers.mk.injEq, Keypad.mk.injEq]
  refine ⟨Memory.ext_cell fun address _ => same (.cell address),
    ⟨Vector.ext fun x bound => same (.register ⟨x, bound⟩), same .index, same .counter,
      same .stack⟩,
    ⟨same .delay, same .sound⟩,
    ⟨KeySet.ext_contains fun key => same (.held key), same .latch⟩,
    same .screen, same .random, KeySet.ext_contains fun key => same (.tested key), same .note⟩

theorem SameAt.refl (machine : Machine) (part : Part) : machine.SameAt machine part := by
  cases part <;> rfl

theorem SameAt.trans (first : machine.SameAt later part) (second : later.SameAt last part) :
    machine.SameAt last part := by
  cases part <;> exact Eq.trans second first

/-! ## Instructions -/

/-- Only the two instructions that store change memory, and only where they store. -/
theorem cell_perform {address : Nat} (apart : .cell address ∉ machine.footprint instruction) :
    (machine.perform instruction).memory.cell address = machine.memory.cell address := by
  rw [perform, memory_effect]
  split
  case h_1 x =>
    apply Memory.cell_store_of_outside
    exact fun inside => apart ⟨address, inside, rfl⟩
  case h_2 x =>
    apply Memory.cell_store_of_outside
    rw [Registers.length_upTo]
    exact fun inside => apart ⟨address, ⟨inside.1, Nat.lt_succ_iff.mp inside.2⟩, rfl⟩
  case h_3 => rfl

/-- An instruction changes no register outside its footprint. -/
theorem reg_perform {y : Register} (apart : .register y ∉ machine.footprint instruction) :
    (machine.perform instruction).reg y = machine.reg y := by
  rw [perform]
  cases instruction
  case setConstant x _ | addConstant x _ | copy x _ | bitOr x _ | bitAnd x _ | bitXor x _ |
      readDelay x =>
    exact (reg_setReg _ x y _).trans (if_neg fun same => apart (congrArg Part.register same.symm))
  case random x _ =>
    refine (reg_setReg _ x y _).trans (if_neg fun same => apart (.inl ?_))
    exact congrArg Part.register same.symm
  case draw =>
    refine (reg_setReg _ flag y _).trans (if_neg fun same => apart (.inl ?_))
    exact congrArg Part.register same.symm
  case add x _ | subtract x _ | subtractFrom x _ | shiftRight x | shiftLeft x =>
    refine (reg_setWithFlag _ x y _ _).trans ?_
    rw [if_neg fun same => apart (.inr (congrArg Part.register same.symm)),
      if_neg fun same => apart (.inl (congrArg Part.register same.symm))]
    rfl
  case loadRegisters x =>
    refine (reg_loadFromIndex _ x y).trans (if_neg fun low => apart ⟨y, ?_, rfl⟩)
    exact Nat.lt_succ_iff.mp low
  -- no other instruction deals with registers
  all_goals
    simp only [effect, skipIf_eq, noteTest_eq, leave_eq, enter_eq]
    rfl

/-- An instruction that asks for no key with the code of a key does not note the key. -/
theorem noted_perform {key : Key} (apart : .tested key ∉ machine.footprint instruction) :
    (machine.perform instruction).tested.contains key = machine.tested.contains key := by
  rw [Bool.eq_iff_iff, contains_tested_perform]
  refine or_iff_right fun asks => ?_
  obtain ⟨x, register, code⟩ := Option.map_eq_some_iff.mp asks
  cases instruction <;> cases register
  · exact apart ⟨key, code, rfl⟩
  · exact apart ⟨key, code, rfl⟩

/-- What an instruction does is confined to its footprint and the counter. -/
theorem sameAt_perform (apart : part ∉ machine.footprint instruction) (still : part ≠ .counter) :
    machine.SameAt (machine.perform instruction) part := by
  cases part with
  | counter => exact absurd rfl still
  | cell address => exact cell_perform apart
  | register x => exact reg_perform apart
  | tested key => exact noted_perform apart
  | held key => exact congrArg (KeySet.contains · key) (held_perform machine instruction)
  -- the effect on each other part lists first the instructions that have it in their footprints
  | index =>
      refine (index_effect _ instruction).trans ?_
      split
      · exact absurd rfl apart
      · exact absurd rfl apart
      · exact absurd rfl apart
      · rfl
  | stack =>
      refine (stack_effect _ instruction).trans ?_
      split
      · exact absurd rfl apart
      · exact absurd rfl apart
      · rfl
  | delay =>
      refine (congrArg Timers.delay (timers_effect _ instruction)).trans ?_
      split
      · exact absurd rfl apart
      · rfl
      · rfl
  | sound =>
      refine (congrArg Timers.sound (timers_effect _ instruction)).trans ?_
      split
      · rfl
      · exact absurd rfl apart
      · rfl
  | latch =>
      refine (congrArg Keypad.awaiting (keypad_effect _ instruction)).trans ?_
      split
      · exact absurd rfl apart
      · rfl
  | random =>
      refine (random_effect _ instruction).trans ?_
      split
      · exact absurd (.inr rfl) apart
      · rfl
  | screen =>
      refine (screen_effect _ instruction).trans ?_
      split
      · exact absurd (.inl rfl) apart
      · exact absurd (.inr (.inl rfl)) apart
      · rfl
  | note =>
      refine (screenChanged_effect _ instruction).trans ?_
      split
      · exact absurd (.inr rfl) apart
      · exact absurd (.inr (.inr rfl)) apart
      · rfl

/-! ## Where instructions lead -/

theorem toNat_ofNat_address (target : Address) : (UInt16.ofNat target.val).toNat = target.val :=
  UInt16.toNat_ofNat_of_lt (Nat.lt_trans target.isLt (by decide))

/-- A skip leads over the next instruction exactly if its test succeeds. -/
theorem toNat_counter_perform_skip {succeeds : Bool} (fetched : machine.fetch = .ok instruction)
    (skip : machine.skipTest? instruction = some succeeds) :
    (machine.perform instruction).counter.toNat =
      machine.counter.toNat + if succeeds then 4 else 2 := by
  have inside : machine.counter.toNat + 2 ≤ 4096 := counter_add_two_le_of_fetch fetched
  have behind : machine.advance.counter.toNat = machine.counter.toNat + 2 :=
    toNat_counter_of_fetch fetched
  have course : (machine.perform instruction).counter =
      if succeeds then machine.advance.advance.counter else machine.advance.counter := by
    rw [perform, counter_effect]
    cases instruction
    case skipIfConstant | skipUnlessConstant | skipIfSame | skipUnlessSame | skipIfPressed |
        skipUnlessPressed =>
      cases skip
      simp only [skipTest?, Option.some.injEq]
      rfl
    all_goals cases skip
  rw [course]
  cases succeeds with
  | false => exact behind
  | true =>
      refine (toNat_counter_advance (by omega)).trans ?_
      rw [behind]
      rfl

/-- Skips of opposite sense that find the same operands decide against each other. -/
theorem Opposed.skipTest? {left right : Instruction} (opposed : machine.Opposed other left right) :
    ∃ succeeds, machine.skipTest? left = some succeeds ∧
      other.skipTest? right = some !succeeds := by
  cases opposed with
  | constants n value => exact ⟨_, rfl, by rw [Machine.skipTest?, value]; rfl⟩
  | registers first second => exact ⟨_, rfl, by rw [Machine.skipTest?, first, second]; rfl⟩
  | keys code held =>
      have same : other.keypad.isHeld = machine.keypad.isHeld :=
        funext fun key => congrArg (KeySet.contains · key) held.symm
      have answer (value : UInt8) : other.holds value = machine.holds value := by
        rw [holds, holds, same]
      exact ⟨_, rfl, by rw [Machine.skipTest?, code, answer]⟩

/-- Where an instruction that is executed may continue. -/
theorem counter_perform (fetched : machine.fetch = .ok instruction)
    (free : machine.obstacle? instruction = none) :
    (machine.perform instruction).counter.toNat ∈ machine.destinations instruction := by
  cases instruction
  case ret =>
    show machine.returns.getLast? = _
    rw [returns_perform_ret free, List.getLast?_concat]
  case jump target => exact toNat_ofNat_address target
  case call target =>
    have room : (machine.advance.registers.stack.push? machine.advance.counter).isSome := by
      rw [Option.isSome_iff_ne_none, Ne, CallStack.push?_eq_none_iff]
      intro full
      cases free.symm.trans (if_pos full)
    have course : (machine.perform (.call target)).counter = UInt16.ofNat target.val :=
      (counter_effect _ _).trans (if_pos room)
    show (machine.perform _).counter.toNat = target.val
    rw [course, toNat_ofNat_address]
  case jumpOffset target =>
    have := target.isLt
    have := (machine.reg offset).toNat_lt
    show (UInt16.ofNat target.val + (machine.reg offset).toUInt16).toNat = _
    rw [UInt16.toNat_add, toNat_ofNat_address, UInt8.toNat_toUInt16]
    exact Nat.mod_eq_of_lt (by omega)
  case waitForKey x =>
    rw [perform_waitForKey]
    rfl
  case skipIfConstant | skipUnlessConstant | skipIfSame | skipUnlessSame | skipIfPressed |
      skipUnlessPressed =>
    rw [toNat_counter_perform_skip fetched rfl]
    split
    · exact .inr rfl
    · exact .inl rfl
  all_goals
    rw [perform, counter_effect]
    exact toNat_counter_of_fetch fetched

/-! ## Events -/

theorem KeepsTo.step (executed : machine.step.1 = .executed instruction) :
    machine.KeepsTo instruction machine.step.2 := by
  obtain ⟨ready, fetched, free, course⟩ := course_of_executed executed
  rw [course]
  constructor
  case parts => exact fun part => sameAt_perform
  case counter => exact counter_perform fetched free
  case tested => exact fun key noted => contains_tested_perform.mpr (.inr noted)
  case called =>
    rintro target rfl
    exact returns_perform_call fetched free
  case returned =>
    rintro rfl
    exact returns_perform_ret free

/-- Skips of opposite sense that find the same operands do not both lead over the next
instruction, and one of them does. -/
theorem Opposed.counters {left right : Instruction} (opposed : machine.Opposed other left right)
    (executed : machine.step.1 = .executed left) (executed' : other.step.1 = .executed right) :
    machine.step.2.counter.toNat = machine.counter.toNat + 4 ↔
      other.step.2.counter.toNat = other.counter.toNat + 2 := by
  obtain ⟨-, fetched, -, course⟩ := course_of_executed executed
  obtain ⟨-, fetched', -, course'⟩ := course_of_executed executed'
  obtain ⟨succeeds, test, test'⟩ := opposed.skipTest?
  rw [course, course', toNat_counter_perform_skip fetched test,
    toNat_counter_perform_skip fetched' test']
  cases succeeds <;> simp

/-- A press holds its key. It does more only if an instruction waits, and then no more than to
complete it. -/
theorem sameAt_press {key : Key} (apart : part ∉ machine.eventFootprint (.press key)) :
    machine.SameAt (machine.press key) part := by
  rw [eventFootprint, Set.mem_insert_iff, not_or] at apart
  obtain ⟨otherKey, apart⟩ := apart
  have held (other : Key) (same : part = .held other) :
      (machine.press key).keypad.isHeld other = machine.keypad.isHeld other := by
    refine (isHeld_after machine (.press key) other).trans (if_neg fun about => otherKey ?_)
    rw [same, beq_iff_eq.mp about]
  cases awaiting : machine.keypad.awaiting with
  | none =>
      rw [press_of_ready awaiting] at held ⊢
      cases part with
      | held other => exact held other rfl
      | latch => exact awaiting.symm
      | _ => rfl
  | some x =>
      simp only [awaiting, Set.mem_insert_iff, Set.mem_singleton_iff, not_or] at apart
      rw [press_of_awaiting awaiting] at held ⊢
      cases part with
      | held other => exact held other rfl
      | latch => exact absurd rfl apart.1
      | counter => exact absurd rfl apart.2.2
      | register y =>
          refine (Registers.get_set machine.registers x y key.byte).trans (if_neg fun same => ?_)
          exact apart.2.1 (congrArg Part.register same.symm)
      | _ => rfl

/-- What an event does is confined to its footprint. -/
theorem sameAt_after (apart : part ∉ machine.eventFootprint event) :
    machine.SameAt (machine.after event) part := by
  cases event with
  | step =>
      rw [after_step]
      rw [eventFootprint] at apart
      cases executed : machine.executed? .step with
      | none =>
          rw [step_of_executed?_none executed]
          exact .refl machine part
      | some instruction =>
          simp only [executed, Set.mem_insert_iff, not_or] at apart
          rw [(step_of_executed? executed).2]
          exact sameAt_perform apart.2 apart.1
  | tick =>
      cases part with
      | delay => exact absurd (.inl rfl) apart
      | sound => exact absurd (.inr rfl) apart
      | _ => rfl
  | acknowledge =>
      cases part with
      | note => exact absurd rfl apart
      | _ => rfl
  | release key =>
      cases part with
      | held other =>
          refine (isHeld_after machine (.release key) other).trans (if_neg fun about => apart ?_)
          exact congrArg Part.held (beq_iff_eq.mp about).symm
      | _ => rfl
  | press key => exact sameAt_press apart

/-- A part that no event may change is at the end what it was at the start. -/
theorem sameAt_afterAll
    (apart : ∀ before event, (before, event) ∈ machine.chronicle events →
      part ∉ before.eventFootprint event) : machine.SameAt (machine.afterAll events) part := by
  induction events generalizing machine with
  | nil => exact .refl machine part
  | cons event rest ih =>
      have first := sameAt_after (apart machine event List.mem_cons_self)
      have later := ih fun before event listed =>
        apart before event (List.mem_cons_of_mem _ listed)
      exact first.trans later

/-- Everything that can happen to a machine keeps to its footprint. An instruction that is executed
changes no part outside its own but the counter, and continues at one of its destinations: at the
next instruction, unless it names another place, waits, or skips one instruction. It never forgets
that a key was asked for; a call puts the address behind it on top of the return addresses, and a
return takes the topmost away. Skips of opposite sense that find the same operands, and the same
keys held if they ask for one, decide against each other. Ticks, keys and the note on the screen
change no part outside their footprints either, and so a part outside the footprints of all events
is at the end what it was at the start. -/
theorem keeps_to_footprint (machine : Machine) :
    (∀ instruction, machine.step.1 = .executed instruction →
      machine.KeepsTo instruction machine.step.2) ∧
    (∀ other left right, machine.Opposed other left right →
      machine.step.1 = .executed left → other.step.1 = .executed right →
      (machine.step.2.counter.toNat = machine.counter.toNat + 4 ↔
        other.step.2.counter.toNat = other.counter.toNat + 2)) ∧
    (∀ event part, part ∉ machine.eventFootprint event →
      machine.SameAt (machine.after event) part) ∧
    ∀ events part,
      (∀ before event, (before, event) ∈ machine.chronicle events →
        part ∉ before.eventFootprint event) →
      machine.SameAt (machine.afterAll events) part :=
  ⟨fun _ => KeepsTo.step, fun _ _ _ => Opposed.counters, fun _ _ => sameAt_after,
    fun _ _ => sameAt_afterAll⟩

/-- Two programs that ask for the key with code 0, which is not held: the one goes on with the next
instruction, so the other does not; and a tick between leaves the counter alone. -/
theorem keeps_to_footprint_opposed :
    let machine := boot [0xE0, 0x9E] 0
    let other := boot [0xE0, 0xA1] 0
    machine.KeepsTo (.skipIfPressed 0) machine.step.2 ∧
      machine.step.2.counter.toNat = machine.counter.toNat + 2 ∧
      other.step.2.counter.toNat ≠ other.counter.toNat + 2 ∧
      machine.SameAt (machine.after .tick) .counter := by
  intro machine other
  have course : machine.step = (.executed (.skipIfPressed 0), _) :=
    step_of_fetch rfl (fetch_of_image rfl (by decide) (by decide)) (Memory.rangeFault?_zero _)
  have course' : other.step = (.executed (.skipUnlessPressed 0), _) :=
    step_of_fetch rfl (fetch_of_image rfl (by decide) (by decide)) (Memory.rangeFault?_zero _)
  obtain ⟨keeps, opposite, events, -⟩ := keeps_to_footprint machine
  have next : machine.step.2.counter.toNat = machine.counter.toNat + 2 := by
    rw [course]
    decide
  have opposed : machine.Opposed other (.skipIfPressed 0) (.skipUnlessPressed 0) :=
    .keys (by decide) rfl
  have decides := opposite other _ _ opposed (congrArg Prod.fst course) (congrArg Prod.fst course')
  refine ⟨keeps _ (congrArg Prod.fst course), next, fun same => ?_, events .tick .counter ?_⟩
  · have := decides.mpr same
    omega
  · simp [eventFootprint]

end Machine

end Chip8
