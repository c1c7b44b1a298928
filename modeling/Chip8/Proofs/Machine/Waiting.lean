import Chip8.Proofs.Machine.Faults

/-!
# Waiting for a key

An instruction that waits for a key arms the latch of the keypad and keeps the counter on itself.
Latch, counter and code lie in three parts of a machine, and `Machine.Armed` says that they agree:
whoever finds the latch armed finds the counter on an instruction that waits on behalf of the same
register. Nothing but the instruction itself arms the latch, and nothing that happens to a machine
that waits moves the counter or touches memory, so the agreement holds for every reachable machine.

A machine that waits sits out everything but a press (`Machine.SitsOut`). The first press completes
the instruction, and from then on presses do no more than hold keys until the next such instruction
is executed. `Machine.Reachable.waits_for_press` puts this together.
-/

namespace Chip8

/-- The register on behalf of which an instruction waits for a key, if it does. -/
def Instruction.waitsFor? : Instruction → Option Register
  | .waitForKey x => some x
  | _ => none

theorem Instruction.waitsFor?_eq_some_iff {instruction : Instruction} {x : Register} :
    instruction.waitsFor? = some x ↔ instruction = .waitForKey x := by
  cases instruction <;> simp [waitsFor?]

namespace Machine

/-- Whether an event presses some key. -/
def Event.isPress : Event → Bool
  | .press _ => true
  | _ => false

/-- A machine whose latch waits for a key stands on an instruction that waits for it. -/
def Armed (machine : Machine) : Prop :=
  ∀ x, machine.keypad.awaiting = some x → machine.fetch = .ok (.waitForKey x)

/-- An event that completes no waiting instruction, and in which nobody takes note of the screen. -/
def Event.Passes : Event → Prop
  | .step | .tick | .release _ => True
  | .press _ | .acknowledge => False

/-- A later machine differs from an earlier one only by what passes while an instruction waits: its
timers have counted down by the ticks among the events, and the keys released by them are let
go. -/
structure SitsOut (machine : Machine) (events : List Event) (later : Machine) : Prop where
  work : SameWork machine later
  screenChanged : later.screenChanged = machine.screenChanged
  awaiting : later.keypad.awaiting = machine.keypad.awaiting
  delay : later.timers.delay.toNat = machine.timers.delay.toNat - events.count .tick
  sound : later.timers.sound.toNat = machine.timers.sound.toNat - events.count .tick
  held : ∀ key, later.keypad.isHeld key = true ↔
    machine.keypad.isHeld key = true ∧ .release key ∉ events

variable {machine middle later : Machine} {instruction : Instruction} {event : Event}
  {events first second : List Event} {x : Register}

/-! ## The latch agrees with the counter and the code -/

/-- An instruction that starts to wait arms the latch, whatever keys are held, and does nothing
else. -/
theorem perform_waitForKey (machine : Machine) (x : Register) :
    machine.perform (.waitForKey x) =
      { machine with keypad := machine.keypad.await x } := by
  have back : machine.counter + 2 - 2 = machine.counter := UInt16.add_sub_cancel _ _
  show { machine.advance with keypad := machine.keypad.await x }.goto
    (machine.counter + 2 - 2) = _
  rw [back]
  rfl

/-- An instruction that waits arms the latch, and no other instruction touches it. -/
theorem awaiting_perform (machine : Machine) (instruction : Instruction) :
    (machine.perform instruction).keypad.awaiting =
      instruction.waitsFor?.or machine.keypad.awaiting := by
  rw [perform, keypad_effect]
  cases instruction <;> rfl

@[simp] theorem awaiting_press (machine : Machine) (key : Key) :
    (machine.press key).keypad.awaiting = none := by
  simp only [press]
  split <;> rfl

/-- A press clears the latch, an instruction that waits arms it, and nothing else touches it. -/
theorem awaiting_after (machine : Machine) (event : Event) :
    (machine.after event).keypad.awaiting =
      if event.isPress then none
      else ((machine.executed? event).bind Instruction.waitsFor?).or machine.keypad.awaiting := by
  cases event with
  | press key => exact awaiting_press machine key
  | tick | release | acknowledge => rfl
  | step =>
      rw [after_step]
      cases executed : machine.executed? .step with
      | none =>
          rw [step_of_executed?_none executed]
          rfl
      | some instruction =>
          rw [(step_of_executed? executed).2, awaiting_perform]
          rfl

namespace Armed

theorem boot (image : List UInt8) (seed : UInt64) : Armed (.boot image seed) := by
  rintro x ⟨⟩

/-- What is fetched depends on no more than memory and the counter. -/
theorem congr (armed : machine.Armed) (memory : later.memory = machine.memory)
    (counter : later.counter = machine.counter)
    (awaiting : later.keypad.awaiting = machine.keypad.awaiting) : later.Armed := by
  intro x waits
  rw [fetch_congr memory counter]
  exact armed x (awaiting ▸ waits)

/-- An instruction that arms the latch is the one at the counter, and it leaves the counter where it
is. -/
theorem perform (ready : machine.keypad.awaiting = none)
    (fetched : machine.fetch = .ok instruction) : (machine.perform instruction).Armed := by
  intro x awaiting
  rw [awaiting_perform, ready, Option.or_none, Instruction.waitsFor?_eq_some_iff] at awaiting
  subst awaiting
  rw [perform_waitForKey]
  exact (fetch_congr rfl rfl).trans fetched

theorem step (armed : machine.Armed) : machine.step.2.Armed := by
  rcases machine.step_cases with
    ⟨_, course⟩ | ⟨_, _, course⟩ | ⟨instruction, ready, fetched, _, course⟩ <;> rw [course]
  · exact armed
  · exact armed
  · exact perform ready fetched

/-- Everything that can happen to a machine keeps the latch in agreement. -/
theorem after (armed : machine.Armed) (event : Event) : (machine.after event).Armed := by
  cases event with
  | step => exact armed.step
  | tick | release | acknowledge => exact armed.congr rfl rfl rfl
  | press key =>
      intro x waits
      cases (awaiting_press machine key).symm.trans waits

end Armed

/-- The latch of every reachable machine agrees with its counter and its code. -/
theorem Reachable.armed (reachable : Reachable machine) : machine.Armed := by
  induction reachable with
  | boot image seed => exact .boot image seed
  | after event _ ih => exact ih.after event
  | restore _ _ _ stored => exact stored.congr rfl rfl rfl

/-! ## Sitting out everything but a press -/

/-- While an instruction waits, a step does nothing. -/
theorem step_of_awaiting (awaiting : machine.keypad.awaiting = some x) :
    machine.step = (.waiting, machine) := by
  rw [step, if_pos (by rw [awaiting]; rfl)]

namespace SitsOut

theorem refl (machine : Machine) : machine.SitsOut [] machine where
  work := .refl machine
  screenChanged := rfl
  awaiting := rfl
  delay := rfl
  sound := rfl
  held := by simp

theorem trans (early : machine.SitsOut first middle) (late : middle.SitsOut second later) :
    machine.SitsOut (first ++ second) later where
  work := early.work.trans late.work
  screenChanged := late.screenChanged.trans early.screenChanged
  awaiting := late.awaiting.trans early.awaiting
  delay := by
    rw [late.delay, early.delay, List.count_append]
    omega
  sound := by
    rw [late.sound, early.sound, List.count_append]
    omega
  held := by
    intro key
    rw [late.held, early.held, List.mem_append, not_or, and_assoc]

/-- A machine that waits sits out an event that passes. -/
theorem after (awaiting : machine.keypad.awaiting = some x) (passes : event.Passes) :
    machine.SitsOut [event] (machine.after event) := by
  cases event with
  | press | acknowledge => exact passes.elim
  | step =>
      rw [after_step, step_of_awaiting awaiting]
      exact ⟨.refl machine, rfl, rfl, rfl, rfl, by simp⟩
  | tick =>
      refine ⟨⟨rfl, rfl, rfl, rfl, rfl⟩, rfl, rfl, ?_, ?_, ?_⟩
      · exact Timers.toNat_countDown _
      · exact Timers.toNat_countDown _
      · intro key
        simp [Machine.after, Machine.tick]
  | release key =>
      refine ⟨⟨rfl, rfl, rfl, rfl, rfl⟩, rfl, rfl, rfl, rfl, fun other => ?_⟩
      simp only [Machine.after, Machine.release, Keypad.release, Keypad.isHeld,
        KeySet.contains_erase, Bool.and_eq_true, Bool.not_eq_true', beq_eq_false_iff_ne,
        List.mem_singleton, Event.release.injEq]
      rw [and_comm, ne_comm]

end SitsOut

/-- A machine that waits sits out any number of events that pass, and its steps keep waiting. -/
theorem sitsOut_afterAll (awaiting : machine.keypad.awaiting = some x)
    (pass : ∀ event ∈ events, event.Passes) :
    machine.SitsOut events (machine.afterAll events) ∧
      ∀ outcome ∈ machine.outcomes events, outcome = .waiting := by
  induction events generalizing machine with
  | nil => exact ⟨.refl machine, nofun⟩
  | cons event rest ih =>
      obtain ⟨here, others⟩ := List.forall_mem_cons.mp pass
      have early := SitsOut.after awaiting here
      obtain ⟨late, outcomes⟩ := ih (early.awaiting.trans awaiting) others
      refine ⟨early.trans late, ?_⟩
      cases event with
      | press | acknowledge => exact here.elim
      | tick | release => exact outcomes
      | step =>
          rw [Machine.outcomes]
          exact List.forall_mem_cons.mpr ⟨by rw [step_of_awaiting awaiting], outcomes⟩

/-! ## The press and what comes behind it -/

/-- The first press stores the code of the key, moves on and clears the latch. -/
theorem press_of_awaiting (awaiting : machine.keypad.awaiting = some x) (key : Key) :
    machine.press key =
      { machine with
        registers := { machine.registers.set x key.byte with counter := machine.counter + 2 }
        keypad := ⟨machine.keypad.held.insert key, none⟩ } := by
  simp only [press, awaiting]
  rfl

/-- A press that completes no instruction holds a key and does nothing else. -/
theorem press_of_ready (ready : machine.keypad.awaiting = none) (key : Key) :
    machine.press key =
      { machine with keypad := ⟨machine.keypad.held.insert key, none⟩ } := by
  simp only [press, ready]
  rfl

/-- The latch stays clear as long as no instruction that waits is executed. -/
theorem awaiting_afterAll (ready : machine.keypad.awaiting = none)
    (noWait : ∀ execution ∈ machine.executions events, ∀ x, execution.2 ≠ .waitForKey x) :
    (machine.afterAll events).keypad.awaiting = none := by
  induction events generalizing machine with
  | nil => exact ready
  | cons event rest ih =>
      rw [executions_cons] at noWait
      apply ih
      · rw [awaiting_after, ready, Option.or_none]
        split
        · rfl
        · apply Option.eq_none_iff_forall_ne_some.mpr
          intro x waits
          obtain ⟨instruction, executed, waits⟩ := Option.bind_eq_some_iff.mp waits
          refine noWait (machine, instruction) ?_ x (Instruction.waitsFor?_eq_some_iff.mp waits)
          rw [executed]
          exact List.mem_append_left _ (List.mem_singleton.mpr rfl)
      · intro execution listed
        exact noWait execution (List.mem_append_right _ listed)

/-- How a machine waits for a key. A latch is armed only while the counter is on an instruction in
memory that waits on behalf of the same register. Steps, ticks and releases leave a machine that
waits as it is, timers and released keys apart, and its steps keep waiting. The first press stores
the code of the key in the register, moves on behind the instruction, clears the latch and holds
the key, and changes nothing else; whatever happens then, a press changes neither a register nor
the counter until an instruction that waits is executed again. When one is executed, the keys that
are already held make no difference: it arms the latch and does nothing else, and the latch stays
armed until a press. -/
theorem Reachable.waits_for_press (reachable : Reachable machine) :
    (∀ x, machine.keypad.awaiting = some x →
      machine.counter.toNat ≤ 4094 ∧
      (Opcode.ofBytes (machine.memory.cell machine.counter.toNat)
        (machine.memory.cell (machine.counter.toNat + 1))).decode = some (.waitForKey x) ∧
      ∀ events : List Event, (∀ event ∈ events, event.Passes) →
        let waiting := machine.afterAll events
        machine.SitsOut events waiting ∧
        (∀ outcome ∈ machine.outcomes events, outcome = .waiting) ∧
        waiting.step = (.waiting, waiting) ∧
        ∀ key,
          let resolved := waiting.press key
          resolved =
            { waiting with
              registers := { waiting.registers.set x key.byte with counter := waiting.counter + 2 }
              keypad := ⟨waiting.keypad.held.insert key, none⟩ } ∧
          resolved.counter.toNat = machine.counter.toNat + 2 ∧
          ∀ later : List Event,
            (∀ execution ∈ resolved.executions later, ∀ y, execution.2 ≠ .waitForKey y) →
            ∀ other,
              let reached := resolved.afterAll later
              reached.press other =
                { reached with keypad := ⟨reached.keypad.held.insert other, none⟩ }) ∧
    ∀ x, machine.step.1 = .executed (.waitForKey x) →
      machine.step.2 = { machine with keypad := machine.keypad.await x } ∧
      ∀ events : List Event, (∀ event ∈ events, event.Passes) →
        (machine.step.2.afterAll events).keypad.awaiting = some x := by
  constructor
  · intro x awaiting
    have fetched := reachable.armed x awaiting
    have inside := counter_add_two_le_of_fetch fetched
    have highest : machine.counter.toNat ≤ 4094 := Nat.le_of_add_le_add_right inside
    refine ⟨highest, decode_of_fetch fetched, fun events pass => ?_⟩
    obtain ⟨sitsOut, outcomes⟩ := sitsOut_afterAll awaiting pass
    have still := sitsOut.awaiting.trans awaiting
    refine ⟨sitsOut, outcomes, step_of_awaiting still, fun key => ?_⟩
    refine ⟨press_of_awaiting still key, ?_, fun later noWait other => ?_⟩
    · have counter : (machine.afterAll events).counter = machine.counter :=
        congrArg Registers.counter sitsOut.work.registers
      rw [press_of_awaiting still key]
      show ((machine.afterAll events).counter + 2).toNat = _
      rw [counter, UInt16.toNat_add]
      exact Nat.mod_eq_of_lt (by simp; omega)
    · exact press_of_ready (awaiting_afterAll (awaiting_press _ key) noWait) other
  · intro x executed
    have armed : machine.step.2 = { machine with keypad := machine.keypad.await x } := by
      rcases machine.step_cases with
        ⟨_, course⟩ | ⟨_, _, course⟩ | ⟨instruction, _, _, _, course⟩ <;>
          rw [course] at executed ⊢ <;> cases executed
      exact machine.perform_waitForKey x
    refine ⟨armed, fun events pass => ?_⟩
    have awaiting : machine.step.2.keypad.awaiting = some x := by
      rw [armed]
      rfl
    exact (sitsOut_afterAll awaiting pass).1.awaiting.trans awaiting

/-- A program that waits for a key while one is held already. The key is let go and pressed again,
and only then the program goes on. -/
theorem waits_for_press_again :
    let held := (boot [0xF3, 0x0A] 0).after (.press ⟨7⟩)
    let machine := held.after .step
    let waiting := machine.afterAll [.step, .tick, .release ⟨7⟩]
    held.keypad.isHeld ⟨7⟩ = true ∧ held.step.1 = .executed (.waitForKey 3) ∧
      machine.keypad.awaiting = some 3 ∧ machine.counter.toNat = 0x200 ∧
      waiting.step = (.waiting, waiting) ∧
      (waiting.press ⟨7⟩).counter.toNat = 0x202 ∧ (waiting.press ⟨7⟩).reg 3 = 7 := by
  intro held machine waiting
  have started : Reachable held := (Reachable.boot _ _).after _
  have fetched : held.fetch = .ok (.waitForKey 3) := fetch_of_image rfl (by decide) (by decide)
  have course := step_of_fetch rfl fetched rfl
  have executed : held.step.1 = .executed (.waitForKey 3) := by rw [course]
  have armed : machine = { held with keypad := held.keypad.await 3 } :=
    (after_step held).trans (started.waits_for_press.2 3 executed).1
  have awaiting : machine.keypad.awaiting = some 3 := by
    rw [armed]
    rfl
  have counter : machine.counter.toNat = 0x200 := by
    rw [armed]
    decide
  obtain ⟨-, -, waits⟩ := (started.after .step).waits_for_press.1 3 awaiting
  have pass : ∀ event ∈ [.step, .tick, .release ⟨7⟩], Event.Passes event := by
    intro event listed
    simp only [List.mem_cons, List.not_mem_nil, or_false] at listed
    rcases listed with rfl | rfl | rfl <;> trivial
  obtain ⟨-, -, asleep, resolves⟩ := waits _ pass
  obtain ⟨resolved, behind, -⟩ := resolves ⟨7⟩
  refine ⟨by decide, executed, awaiting, counter, asleep, ?_, ?_⟩
  · exact behind.trans (congrArg (· + 2) counter)
  · have stored (registers : Registers) (counter : UInt16) :
        { registers.set 3 7 with counter }.get 3 = 7 :=
      (Registers.get_set registers 3 3 7).trans (if_pos rfl)
    rw [resolved]
    exact stored _ _

end Machine

end Chip8
