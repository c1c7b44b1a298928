import Chip8.Proofs.Machine.Countdown
import Chip8.Proofs.Machine.Keys

/-!
# Events that do not interfere

A step meets the outside at few places only: it reads or sets a timer, asks for a key, or waits for
one. Everywhere else it makes no difference whether a tick or a key event comes before a step or
behind it, whether the step executes an instruction, waits or faults. `commutes_step_tick_iff`,
`commutes_step_release_iff` and `commutes_step_press_iff` say exactly when it does make one;
`Machine.independent_events_commute` lists the events whose order is of no account.
-/

namespace Chip8

namespace KeySet

variable (keys : KeySet) (key other : Key)

theorem insert_comm : (keys.insert key).insert other = (keys.insert other).insert key := by
  ext next
  simp only [contains_insert, Bool.or_left_comm]

theorem erase_comm : (keys.erase key).erase other = (keys.erase other).erase key := by
  ext next
  simp only [contains_erase, Bool.and_left_comm]

theorem insert_erase_comm {key other : Key} (apart : key ≠ other) :
    (keys.erase other).insert key = (keys.insert key).erase other := by
  ext next
  rw [contains_insert, contains_erase, contains_erase, contains_insert]
  by_cases same : key = next
  · subst same
    simp [apart.symm]
  · rw [beq_eq_false_iff_ne.mpr same, Bool.false_or, Bool.false_or]

end KeySet

namespace Machine

/-- It makes no difference which of two events comes first: what the steps among them come to is the
same, and so is the machine behind both, in every part. -/
structure Commutes (machine : Machine) (first second : Event) : Prop where
  outcomes : machine.outcomes [first, second] = machine.outcomes [second, first]
  afterAll : machine.afterAll [first, second] = machine.afterAll [second, first]

/-- The next step is about an instruction: it is at the counter, and the machine does not wait for a
key. -/
structure Meets (machine : Machine) (instruction : Instruction) : Prop where
  ready : machine.keypad.awaiting = none
  fetched : machine.fetch = .ok instruction

/-- A tick before an instruction makes a difference to it: the instruction reads a delay that still
runs, or sets a timer to a value that a tick counts down. -/
def FeelsTick (machine : Machine) : Instruction → Prop
  | .readDelay _ => machine.timers.delay ≠ 0
  | .setDelay x | .setSound x => machine.reg x ≠ 0
  | _ => False

/-- An instruction asks for a key: it tests a key, and finds the code of this one. -/
def AsksFor (machine : Machine) (instruction : Instruction) (key : Key) : Prop :=
  instruction.asksFor?.map machine.reg = some key.byte

/-- A machine on which other keys are held. -/
def withHeld (machine : Machine) (held : KeySet) : Machine :=
  { machine with keypad := { machine.keypad with held } }

variable {machine : Machine} {instruction : Instruction} {first second : Event} {key other : Key}
  {held : KeySet}

theorem Commutes.symm (commutes : machine.Commutes first second) :
    machine.Commutes second first :=
  ⟨commutes.outcomes.symm, commutes.afterAll.symm⟩

/-! ## Steps and changes from outside -/

/-- A change that leaves memory, registers and the latch alone makes no difference to what a step
comes to. It commutes with the step exactly if it commutes with the instruction that is executed. -/
theorem step_change {change : Machine → Machine}
    (memory : (change machine).memory = machine.memory)
    (registers : (change machine).registers = machine.registers)
    (latch : (change machine).keypad.awaiting = machine.keypad.awaiting) :
    (change machine).step.1 = machine.step.1 ∧
      ((change machine).step.2 = change machine.step.2 ↔
        ∀ instruction, machine.Meets instruction → machine.obstacle? instruction = none →
          (change machine).perform instruction = change (machine.perform instruction)) := by
  have blocked := blocked?_congr memory registers
  rcases machine.step_cases with
    ⟨waits, course⟩ | ⟨fault, ready, course⟩ | ⟨instruction, ready, fetched, free, course⟩
  · have waits' : (change machine).step = (.waiting, change machine) :=
      if_pos (latch ▸ waits)
    rw [course, waits']
    refine ⟨rfl, iff_of_true rfl fun instruction meets => ?_⟩
    simp [meets.ready] at waits
  · have stuck : machine.Stuck fault := step_faulted_iff.mp (congrArg Prod.fst course)
    have stuck' : (change machine).Stuck fault := ⟨latch.trans ready, blocked.trans stuck.blocked⟩
    rw [course, stuck'.step_eq]
    refine ⟨rfl, iff_of_true rfl fun instruction meets free => ?_⟩
    have open' := stuck.blocked
    rw [blocked?, meets.fetched] at open'
    exact absurd (open'.symm.trans free) (by simp)
  · have fetched' : (change machine).fetch = .ok instruction :=
      (fetch_congr memory (congrArg Registers.counter registers)).trans fetched
    have free' : (change machine).obstacle? instruction = none := by
      rw [blocked?, blocked?, fetched', fetched] at blocked
      exact blocked.trans free
    rw [course, step_of_fetch (latch.trans ready) fetched' free']
    refine ⟨rfl, fun same other meets _ => ?_, fun same => same _ ⟨ready, fetched⟩ free⟩
    cases meets.fetched.symm.trans fetched
    exact same

/-! ## Ticks -/

theorem countDown_eq_self_iff {value : UInt8} : Timers.countDown value = value ↔ value = 0 := by
  rw [← UInt8.toNat_inj, ← UInt8.toNat_inj, Timers.toNat_countDown, UInt8.toNat_zero]
  omega

/-- A tick makes no difference to an instruction that has nothing to do with timers. -/
theorem perform_tick
    (apart : ∀ x, instruction ≠ .readDelay x ∧ instruction ≠ .setDelay x ∧
      instruction ≠ .setSound x) :
    machine.tick.perform instruction = (machine.perform instruction).tick := by
  cases instruction
  case readDelay x => exact absurd rfl (apart x).1
  case setDelay x => exact absurd rfl (apart x).2.1
  case setSound x => exact absurd rfl (apart x).2.2
  case skipIfConstant | skipUnlessConstant | skipIfSame | skipUnlessSame | skipIfPressed |
      skipUnlessPressed =>
    simp only [perform, effect, skipIf_eq, noteTest_eq]
    rfl
  case ret | call =>
    simp only [perform, effect, leave_eq, enter_eq]
    rfl
  all_goals rfl

/-- An instruction does the same before a tick and behind it, unless it feels the tick. -/
theorem perform_tick_iff :
    machine.tick.perform instruction = (machine.perform instruction).tick ↔
      ¬machine.FeelsTick instruction := by
  cases instruction
  case readDelay x =>
    rw [FeelsTick, not_not, ← countDown_eq_self_iff]
    constructor
    · intro same
      have shown := congrArg (·.reg x) same
      exact (reg_perform_readDelay _ x).symm.trans (shown.trans (reg_perform_readDelay _ x))
    · exact congrArg (machine.tick.advance.setReg x)
  case setDelay x =>
    rw [FeelsTick, not_not, ← countDown_eq_self_iff]
    constructor
    · intro same
      exact (congrArg (·.timers.delay) same).symm
    · intro same
      exact congrArg (fun delay => { machine.advance with
        timers := ⟨delay, machine.tick.timers.sound⟩ }) same.symm
  case setSound x =>
    rw [FeelsTick, not_not, ← countDown_eq_self_iff]
    constructor
    · intro same
      exact (congrArg (·.timers.sound) same).symm
    · intro same
      exact congrArg (fun sound => { machine.advance with
        timers := ⟨machine.tick.timers.delay, sound⟩ }) same.symm
  all_goals exact iff_of_true (perform_tick (by simp)) id

/-- A step and a tick commute, unless the step is about an instruction that feels the tick. -/
theorem commutes_step_tick_iff :
    machine.Commutes .step .tick ↔
      ∀ instruction, machine.Meets instruction → ¬machine.FeelsTick instruction := by
  obtain ⟨outcome, behind⟩ := @step_change machine tick rfl rfl rfl
  simp only [perform_tick_iff] at behind
  constructor
  · intro commutes instruction meets feels
    have free : machine.obstacle? instruction = none := by
      cases instruction with
      | readDelay | setDelay | setSound => exact Memory.rangeFault?_zero _
      | _ => exact feels.elim
    exact behind.mp commutes.afterAll.symm instruction meets free feels
  · intro unfelt
    refine ⟨?_, (behind.mpr fun instruction meets _ => unfelt instruction meets).symm⟩
    exact congrArg (fun outcome => [outcome]) outcome.symm

/-! ## Keys -/

theorem skipIf_inj {left right : Bool} : machine.skipIf left = machine.skipIf right ↔ left = right := by
  constructor
  · intro same
    have counters := congrArg (·.counter) same
    have apart : machine.counter + 2 ≠ machine.counter := by simp
    cases left <;> cases right
    · rfl
    · exact absurd counters.symm apart
    · exact absurd counters apart
    · rfl
  · rintro rfl
    rfl

/-- Other keys that are held make no difference to an instruction that asks for none. -/
theorem perform_withHeld (asksNone : instruction.asksFor? = none) :
    (machine.withHeld held).perform instruction = (machine.perform instruction).withHeld held := by
  cases instruction
  case skipIfPressed | skipUnlessPressed => cases asksNone
  case skipIfConstant | skipUnlessConstant | skipIfSame | skipUnlessSame =>
    simp only [perform, effect, skipIf_eq]
    rfl
  case ret | call =>
    simp only [perform, effect, leave_eq, enter_eq]
    rfl
  all_goals rfl

theorem byte_inj : key.byte = other.byte ↔ key = other := by
  constructor
  · intro same
    exact Option.some.inj ((ofCode?_eq_some_iff.mpr rfl).symm.trans (ofCode?_eq_some_iff.mpr same))
  · exact congrArg Key.byte

@[simp] theorem holds_byte (machine : Machine) (key : Key) :
    machine.holds key.byte = machine.keypad.isHeld key := by
  rw [holds, ofCode?_eq_some_iff.mpr rfl]
  rfl

/-- A code is answered in the same way if the key with the code, if there is one, is held in both
cases or in neither. -/
theorem holds_withHeld_iff {code : UInt8} :
    (machine.withHeld held).holds code = machine.holds code ↔
      ∀ key, code = key.byte → held.contains key = machine.keypad.isHeld key := by
  cases found : Key.ofCode? code.toNat with
  | none =>
      refine iff_of_true (by simp [holds, found]) fun key same => ?_
      rw [ofCode?_eq_some_iff.mpr same] at found
      cases found
  | some key =>
      cases ofCode?_eq_some_iff.mp found
      rw [holds_byte, holds_byte]
      simp only [byte_inj, forall_eq']
      rfl

/-- Other keys that are held make no difference to an instruction, unless it asks for one of the keys
that make the difference. -/
theorem perform_withHeld_iff :
    (machine.withHeld held).perform instruction = (machine.perform instruction).withHeld held ↔
      ∀ key, machine.AsksFor instruction key →
        held.contains key = machine.keypad.isHeld key := by
  have skips (code : UInt8) (answer : Bool) :
      ((machine.advance.noteTest code).skipIf answer).withHeld held =
        ((machine.withHeld held).advance.noteTest code).skipIf answer := by
    simp only [skipIf_eq, noteTest_eq]
    rfl
  cases asks : instruction.asksFor? with
  | none =>
      refine iff_of_true (perform_withHeld asks) fun key found => ?_
      rw [AsksFor, asks] at found
      cases found
  | some x =>
      simp only [AsksFor, asks, Option.map_some, Option.some.injEq]
      rw [← holds_withHeld_iff]
      cases instruction with
      | skipIfPressed =>
          cases asks
          rw [perform, perform, effect, effect, skips]
          exact skipIf_inj
      | skipUnlessPressed =>
          cases asks
          rw [perform, perform, effect, effect, skips]
          exact skipIf_inj.trans Bool.not_inj_iff
      | _ => cases asks

/-- An instruction that asks for a key is always executed. -/
theorem obstacle?_of_asksFor (asks : machine.AsksFor instruction key) :
    machine.obstacle? instruction = none := by
  cases instruction with
  | skipIfPressed | skipUnlessPressed => exact Memory.rangeFault?_zero _
  | _ => cases asks

/-- A step and a change of the held keys commute, unless the step is about an instruction that asks
for one of the keys that make the difference. -/
theorem step_withHeld :
    (machine.withHeld held).step.1 = machine.step.1 ∧
      ((machine.withHeld held).step.2 = machine.step.2.withHeld held ↔
        ∀ instruction key, machine.Meets instruction → machine.AsksFor instruction key →
          held.contains key = machine.keypad.isHeld key) := by
  obtain ⟨outcome, behind⟩ := @step_change machine (withHeld · held) rfl rfl rfl
  refine ⟨outcome, behind.trans ?_⟩
  simp only [perform_withHeld_iff]
  constructor
  · intro same instruction key meets asks
    exact same instruction meets (obstacle?_of_asksFor asks) key asks
  · intro same instruction meets _ key asks
    exact same instruction key meets asks

/-- No step presses or releases a key. -/
theorem held_step (machine : Machine) : machine.step.2.keypad.held = machine.keypad.held := by
  rcases machine.step_cases with
    ⟨_, course⟩ | ⟨_, _, course⟩ | ⟨instruction, _, _, _, course⟩ <;> rw [course]
  exact held_perform machine instruction

/-- A step and the release of a key commute, unless the step is about an instruction that asks for
the key while it is held. -/
theorem commutes_step_release_iff :
    machine.Commutes .step (.release key) ↔
      ∀ instruction, machine.Meets instruction → machine.AsksFor instruction key →
        machine.keypad.isHeld key = false := by
  obtain ⟨outcome, behind⟩ := @step_withHeld machine (machine.keypad.held.erase key)
  have released : machine.step.2.release key =
      machine.step.2.withHeld (machine.keypad.held.erase key) := by
    rw [← held_step]
    rfl
  rw [← released] at behind
  constructor
  · intro commutes instruction meets asks
    have same := behind.mp commutes.afterAll.symm instruction key meets asks
    rw [← same]
    simp
  · intro noneHeld
    refine ⟨congrArg (fun outcome => [outcome]) outcome.symm, (behind.mpr ?_).symm⟩
    intro instruction other meets asks
    rw [KeySet.contains_erase]
    by_cases same : key = other
    · subst same
      simpa using (noneHeld instruction meets asks).symm
    · simp [same, Keypad.isHeld]

theorem press_eq_withHeld (ready : machine.keypad.awaiting = none) (key : Key) :
    machine.press key = machine.withHeld (machine.keypad.held.insert key) := by
  simp only [press_of_ready ready, withHeld, ready]

/-- Only a machine that waits answers a step with waiting. -/
theorem step_waiting_iff : machine.step.1 = .waiting ↔ machine.keypad.awaiting.isSome := by
  rcases machine.step_cases with
    ⟨waits, course⟩ | ⟨_, ready, course⟩ | ⟨_, ready, _, _, course⟩
  · simp [course, waits]
  · simp [course, ready]
  · simp [course, ready]

/-- The latch stays clear in a step that is about no instruction that waits. -/
theorem awaiting_step (ready : machine.keypad.awaiting = none)
    (noWait : ∀ instruction, machine.Meets instruction → instruction.waitsFor? = none) :
    machine.step.2.keypad.awaiting = none := by
  rcases machine.step_cases with
    ⟨_, course⟩ | ⟨_, _, course⟩ | ⟨instruction, _, fetched, _, course⟩ <;> rw [course]
  · exact ready
  · exact ready
  · rw [awaiting_perform, noWait instruction ⟨ready, fetched⟩]
    exact ready

/-- If neither a machine nor the next step waits for a key, a press behind the step holds a key and
does nothing else. -/
theorem press_step (ready : machine.keypad.awaiting = none)
    (noWait : ∀ instruction, machine.Meets instruction → instruction.waitsFor? = none)
    (key : Key) :
    machine.step.2.press key = machine.step.2.withHeld (machine.keypad.held.insert key) := by
  rw [press_eq_withHeld (awaiting_step ready noWait), held_step]

/-- If a step commutes with a press, neither the machine nor the step waits: a press would end the
waiting only if it came last. -/
theorem no_wait_of_commutes (commutes : machine.Commutes .step (.press key)) :
    machine.keypad.awaiting = none ∧
      ∀ instruction, machine.Meets instruction → instruction.waitsFor? = none := by
  have clear := awaiting_press machine key
  have ready : machine.keypad.awaiting = none := by
    by_contra waits
    have waiting := step_waiting_iff.mpr (Option.isSome_iff_ne_none.mpr waits)
    have answers : machine.step.1 = (machine.press key).step.1 :=
      List.singleton_inj.mp commutes.outcomes
    have still := step_waiting_iff.mp (answers.symm.trans waiting)
    rw [clear] at still
    cases still
  refine ⟨ready, fun instruction meets => ?_⟩
  by_contra waits
  obtain ⟨x, waits⟩ := Option.ne_none_iff_exists'.mp waits
  cases Instruction.waitsFor?_eq_some_iff.mp waits
  have same : machine.step.2.press key = (machine.press key).step.2 := commutes.afterAll
  have fetched : (machine.press key).fetch = .ok (.waitForKey x) := by
    rw [press_eq_withHeld ready]
    exact (fetch_congr rfl rfl).trans meets.fetched
  have last := congrArg (·.keypad.awaiting) same
  rw [step_of_fetch clear fetched (Memory.rangeFault?_zero _)] at last
  cases (awaiting_press _ key).symm.trans (last.trans (awaiting_perform _ _))

/-- A step and the press of a key commute, unless the machine waits or starts to wait, or the step is
about an instruction that asks for the key while it is not held. -/
theorem commutes_step_press_iff :
    machine.Commutes .step (.press key) ↔
      machine.keypad.awaiting = none ∧
        ∀ instruction, machine.Meets instruction →
          instruction.waitsFor? = none ∧
            (machine.AsksFor instruction key → machine.keypad.isHeld key = true) := by
  obtain ⟨outcome, behind⟩ := @step_withHeld machine (machine.keypad.held.insert key)
  constructor
  · intro commutes
    obtain ⟨ready, noWait⟩ := no_wait_of_commutes commutes
    have same : (machine.press key).step.2 = machine.step.2.press key := commutes.afterAll.symm
    rw [press_step ready noWait, press_eq_withHeld ready] at same
    refine ⟨ready, fun instruction meets => ⟨noWait instruction meets, fun asks => ?_⟩⟩
    rw [← behind.mp same instruction key meets asks]
    simp
  · rintro ⟨ready, apart⟩
    rw [← press_eq_withHeld ready, ← press_step ready fun _ meets => (apart _ meets).1] at behind
    rw [← press_eq_withHeld ready] at outcome
    refine ⟨congrArg (fun outcome => [outcome]) outcome.symm, (behind.mpr ?_).symm⟩
    intro instruction other meets asks
    rw [KeySet.contains_insert]
    by_cases same : key = other
    · subst same
      simpa using ((apart instruction meets).2 asks).symm
    · simp [same, Keypad.isHeld]

/-! ## Ticks and keys -/

theorem concerns_iff {event : Event} :
    event.concerns key = true ↔ event = .press key ∨ event = .release key := by
  cases event <;> simp [Event.concerns]

theorem press_tick (machine : Machine) (key : Key) :
    machine.tick.press key = (machine.press key).tick := by
  simp only [press, tick]
  split <;> rfl

/-- Ticks have nothing to do with keys. -/
theorem commutes_tick {event : Event} (about : event.concerns key = true) :
    machine.Commutes .tick event := by
  rcases concerns_iff.mp about with rfl | rfl
  · exact ⟨rfl, press_tick machine key⟩
  · exact ⟨rfl, rfl⟩

/-! ## Two keys -/

theorem press_release (apart : key ≠ other) :
    (machine.release other).press key = (machine.press key).release other := by
  have held := machine.keypad.held.insert_erase_comm apart
  simp only [press, release, Keypad.press, Keypad.release, held]
  split <;> rfl

/-- The second of two presses does not complete what the first has completed already. -/
theorem commutes_press_press_iff (apart : key ≠ other) :
    machine.Commutes (.press key) (.press other) ↔ machine.keypad.awaiting = none := by
  constructor
  · intro commutes
    have same : (machine.press key).press other = (machine.press other).press key :=
      commutes.afterAll
    rw [press_of_ready (awaiting_press machine key), press_of_ready (awaiting_press machine other)]
      at same
    by_contra waits
    obtain ⟨x, awaiting⟩ := Option.ne_none_iff_exists'.mp waits
    have received (key : Key) : (machine.press key).reg x = key.byte := by
      rw [press_of_awaiting awaiting]
      exact (Registers.get_set machine.registers x x _).trans (if_pos rfl)
    have codes := congrArg (·.reg x) same
    exact apart (byte_inj.mp ((received key).symm.trans (codes.trans (received other))))
  · intro ready
    refine ⟨rfl, ?_⟩
    show (machine.press key).press other = (machine.press other).press key
    rw [press_of_ready (awaiting_press machine key), press_of_ready (awaiting_press machine other),
      press_of_ready ready, press_of_ready ready]
    simp only [KeySet.insert_comm]

/-- Events about different keys commute, unless both are presses while an instruction waits. -/
theorem commutes_of_concerns (apart : key ≠ other) (aboutFirst : first.concerns key = true)
    (aboutSecond : second.concerns other = true)
    (free : ¬(first.isPress = true ∧ second.isPress = true ∧
      machine.keypad.awaiting.isSome = true)) : machine.Commutes first second := by
  rcases concerns_iff.mp aboutFirst with rfl | rfl <;>
    rcases concerns_iff.mp aboutSecond with rfl | rfl
  · exact (commutes_press_press_iff apart).mpr (by simpa [Event.isPress] using free)
  · exact ⟨rfl, (press_release apart).symm⟩
  · exact ⟨rfl, press_release apart.symm⟩
  · exact ⟨rfl, congrArg machine.withHeld (machine.keypad.held.erase_comm key other)⟩

/-! ## Independent events -/

theorem Meets.unique {later : Instruction} (meets : machine.Meets instruction)
    (other : machine.Meets later) : instruction = later :=
  Except.ok.inj (meets.fetched.symm.trans other.fetched)

/-- Which events are independent of each other, whatever the machine, so that their order is of no
account to what steps come to, faults included, and to any part of the machine. A step and a tick
are, unless the step is about an instruction that reads or sets a timer. A step and the release of a
key are, unless the step is about an instruction that asks for the key. A step of a machine that does
not wait and the press of a key are, unless the step is about an instruction that waits for a key or
asks for this one. Ticks and key events always are. Two events about different keys are, unless both
are presses while an instruction waits. -/
theorem independent_events_commute (machine : Machine) :
    ((∀ x, ¬machine.Meets (.readDelay x) ∧ ¬machine.Meets (.setDelay x) ∧
        ¬machine.Meets (.setSound x)) →
      machine.Commutes .step .tick) ∧
    (∀ key, (∀ x, machine.reg x = key.byte →
        ¬machine.Meets (.skipIfPressed x) ∧ ¬machine.Meets (.skipUnlessPressed x)) →
      machine.Commutes .step (.release key)) ∧
    (∀ key, machine.keypad.awaiting = none →
      (∀ x, ¬machine.Meets (.waitForKey x)) →
      (∀ x, machine.reg x = key.byte →
        ¬machine.Meets (.skipIfPressed x) ∧ ¬machine.Meets (.skipUnlessPressed x)) →
      machine.Commutes .step (.press key)) ∧
    (∀ event key, Event.concerns key event = true → machine.Commutes .tick event) ∧
    ∀ first second key other, key ≠ other →
      Event.concerns key first = true → Event.concerns other second = true →
      ¬(first.isPress = true ∧ second.isPress = true ∧ machine.keypad.awaiting.isSome = true) →
      machine.Commutes first second := by
  have asksNot {key : Key}
      (apart : ∀ x, machine.reg x = key.byte →
        ¬machine.Meets (.skipIfPressed x) ∧ ¬machine.Meets (.skipUnlessPressed x))
      (instruction : Instruction) (meets : machine.Meets instruction) :
      ¬machine.AsksFor instruction key := by
    intro asks
    obtain ⟨x, register, code⟩ := Option.map_eq_some_iff.mp asks
    cases instruction <;> cases register
    · exact (apart x code).1 meets
    · exact (apart x code).2 meets
  refine ⟨?tick, ?release, ?press, fun _ _ => commutes_tick, fun _ _ _ _ => commutes_of_concerns⟩
  case tick =>
    intro apart
    refine commutes_step_tick_iff.mpr fun instruction meets feels => ?_
    cases instruction with
    | readDelay x => exact (apart x).1 meets
    | setDelay x => exact (apart x).2.1 meets
    | setSound x => exact (apart x).2.2 meets
    | _ => exact feels
  case release =>
    intro key apart
    refine commutes_step_release_iff.mpr fun instruction meets asks => ?_
    exact absurd asks (asksNot apart instruction meets)
  case press =>
    intro key ready noWait apart
    refine commutes_step_press_iff.mpr ⟨ready, fun instruction meets => ⟨?_, fun asks => ?_⟩⟩
    · refine Option.eq_none_iff_forall_ne_some.mpr fun x waits => ?_
      cases Instruction.waitsFor?_eq_some_iff.mp waits
      exact noWait x meets
    · exact absurd asks (asksNot apart instruction meets)

/-- A program that asks for the key with code 0: its first step commutes with a tick and with the
press and the release of another key, but not with the press of the key itself. -/
theorem independent_events_commute_other_key :
    let machine := boot [0xE0, 0x9E] 0
    machine.Meets (.skipIfPressed 0) ∧ machine.Commutes .step .tick ∧
      machine.Commutes .step (.release ⟨7⟩) ∧ machine.Commutes .step (.press ⟨7⟩) ∧
      machine.Commutes .tick (.press ⟨7⟩) ∧ machine.Commutes (.press ⟨3⟩) (.press ⟨7⟩) ∧
      ¬machine.Commutes .step (.press ⟨0⟩) := by
  intro machine
  have meets : machine.Meets (.skipIfPressed 0) :=
    ⟨rfl, fetch_of_image rfl (by decide) (by decide)⟩
  have onlyThat {other : Instruction} (others : other ≠ .skipIfPressed 0) :
      ¬machine.Meets other :=
    fun met => others (met.unique meets)
  have noSuchKey : ∀ x, machine.reg x = Key.byte ⟨7⟩ →
      ¬machine.Meets (.skipIfPressed x) ∧ ¬machine.Meets (.skipUnlessPressed x) := by
    intro x
    have zero : ∀ x, machine.reg x ≠ Key.byte ⟨7⟩ := by decide
    exact fun same => absurd same (zero x)
  obtain ⟨ticks, releases, presses, keyTicks, keys⟩ := independent_events_commute machine
  refine ⟨meets, ticks fun x => ?_, releases _ noSuchKey, presses _ rfl (fun x => ?_) noSuchKey,
    keyTicks _ ⟨7⟩ rfl, keys _ _ ⟨3⟩ ⟨7⟩ (by decide) rfl rfl (by decide), fun commutes => ?_⟩
  · exact ⟨onlyThat nofun, onlyThat nofun, onlyThat nofun⟩
  · exact onlyThat nofun
  · cases ((commutes_step_press_iff.mp commutes).2 _ meets).2 rfl

end Machine

end Chip8
