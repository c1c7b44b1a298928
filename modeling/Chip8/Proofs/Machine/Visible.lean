import Chip8.Proofs.Machine.Randomness

/-!
# What can be seen of a machine determines its future

Three things in a machine cannot be seen from outside: the slots of the call stack above the live
ones, the note that the screen may have changed, and the random words still to come. The first two
have no influence on anything (`effect_disguise`), and of the words no more matter than are taken:
`Machine.visible_state_determines` says that machines which look the same and agree in enough words
behave the same for ever.
-/

namespace Chip8

namespace Machine

/-- Two machines have everything in common that can be seen of them. -/
structure LooksLike (left right : Machine) : Prop where
  memory : left.memory = right.memory
  general : left.registers.general = right.registers.general
  index : left.index = right.index
  counter : left.counter = right.counter
  /-- The live return addresses are the same, and so is their number. -/
  returns : left.registers.stack.toList = right.registers.stack.toList
  timers : left.timers = right.timers
  keypad : left.keypad = right.keypad
  screen : left.screen = right.screen
  tested : left.tested = right.tested

/-- Two machines look the same and are about to take the same words, up to some number of them. -/
structure AgreesUpTo (count : Nat) (left right : Machine) : Prop extends LooksLike left right where
  words : left.random.peek count = right.random.peek count

/-- In the course of some events two machines cannot be told apart: their steps come to the same,
the same keys matter to them throughout, and they look the same at the end. -/
structure SameConduct (left right : Machine) (events : List Event) : Prop where
  outcomes : left.outcomes events = right.outcomes events
  required : ∀ first, first <+: events →
    (left.afterAll first).requiredKeys = (right.afterAll first).requiredKeys
  looks : (left.afterAll events).LooksLike (right.afterAll events)

/-- A machine with other parts that cannot be seen. -/
def disguise (machine : Machine) (stack : CallStack) (random : RandomWords) (note : Bool) :
    Machine :=
  { machine with
    registers := { machine.registers with stack }
    random
    screenChanged := note }

variable {machine left right : Machine} {instruction : Instruction} {event : Event}
  {events : List Event} {stack : CallStack} {random : RandomWords} {note : Bool}

/-! ## Disguises -/

/-- Only calls, returns and random numbers have to do with what cannot be seen: every other
instruction does to a disguised machine what it does to the machine. -/
theorem effect_disguise (noCall : ∀ target, instruction ≠ .call target)
    (noReturn : instruction ≠ .ret) (noWord : instruction.takesWord = false) :
    ∃ noted, (machine.disguise stack random note).effect instruction =
      (machine.effect instruction).disguise stack random noted := by
  cases instruction
  case call target => exact absurd rfl (noCall target)
  case ret => exact absurd rfl noReturn
  case random => cases noWord
  case clearScreen | draw => exact ⟨true, rfl⟩
  case skipIfConstant | skipUnlessConstant | skipIfSame | skipUnlessSame =>
    refine ⟨note, ?_⟩
    simp only [effect, skipIf_eq]
    rfl
  case skipIfPressed | skipUnlessPressed =>
    refine ⟨note, ?_⟩
    simp only [effect, skipIf_eq, noteTest_eq]
    rfl
  all_goals exact ⟨note, rfl⟩

namespace LooksLike

/-- What looks like a machine is the machine in a disguise. -/
theorem eq_disguise (same : left.LooksLike right) :
    left = right.disguise left.registers.stack left.random left.screenChanged := by
  obtain ⟨memory, ⟨general, index, counter, stack⟩, timers, keypad, screen, random, tested, note⟩ :=
    left
  cases same.memory
  cases same.general
  cases same.index
  cases same.counter
  cases same.timers
  cases same.keypad
  cases same.screen
  cases same.tested
  rfl

/-- A disguise does not show as long as the live return addresses are the same. -/
theorem ofDisguise (live : stack.toList = right.registers.stack.toList) :
    (right.disguise stack random note).LooksLike right :=
  ⟨rfl, rfl, rfl, rfl, live, rfl, rfl, rfl, rfl⟩

theorem depth_eq (same : left.LooksLike right) :
    left.registers.stack.depth = right.registers.stack.depth := by
  simpa using congrArg List.length same.returns

theorem fetch_eq (same : left.LooksLike right) : left.fetch = right.fetch :=
  fetch_congr same.memory same.counter

theorem obstacle?_eq (same : left.LooksLike right) (instruction : Instruction) :
    left.obstacle? instruction = right.obstacle? instruction := by
  cases instruction <;> simp only [obstacle?, same.depth_eq, same.counter, same.index]

theorem requiredKeys_eq (same : left.LooksLike right) : left.requiredKeys = right.requiredKeys := by
  simp only [requiredKeys, same.keypad, same.tested]

theorem advance (same : left.LooksLike right) : left.advance.LooksLike right.advance :=
  { same with counter := congrArg (· + 2) same.counter }

/-- Machines that look the same return to the same address, if to any. -/
theorem leave (same : left.LooksLike right) : left.leave.LooksLike right.leave := by
  have view := left.registers.stack.map_pop?
  rw [same.returns, ← CallStack.map_pop?] at view
  simp only [Machine.leave]
  cases pop : left.registers.stack.pop? <;> cases pop' : right.registers.stack.pop? <;>
    rw [pop, pop'] at view
  · exact same
  · cases view
  · cases view
  · obtain ⟨address, live⟩ := Prod.mk.inj (Option.some.inj view)
    exact { same with counter := address, returns := live }

/-- Machines that look the same remember the same address when they call, if they can. -/
theorem enter (same : left.LooksLike right) (target : UInt16) :
    (left.enter target).LooksLike (right.enter target) := by
  have view := left.registers.stack.map_push? right.counter
  rw [same.returns, ← CallStack.map_push?] at view
  simp only [Machine.enter, same.counter]
  cases push : left.registers.stack.push? right.counter <;>
    cases push' : right.registers.stack.push? right.counter <;> rw [push, push'] at view
  · exact same
  · cases view
  · cases view
  · exact { same with counter := rfl, returns := Option.some.inj view }

/-- Machines that look the same look the same behind an instruction, if they take the same word for
a random number. -/
theorem perform (same : left.LooksLike right)
    (words : instruction.takesWord = true → left.random.head = right.random.head) :
    (left.perform instruction).LooksLike (right.perform instruction) := by
  rw [Machine.perform, Machine.perform]
  have ahead := same.advance
  by_cases call : ∃ target, instruction = .call target
  · obtain ⟨target, rfl⟩ := call
    exact ahead.enter _
  by_cases ret : instruction = .ret
  · rw [ret]
    exact ahead.leave
  cases takes : instruction.takesWord with
  | true =>
      cases instruction with
      | random x mask =>
          refine { ahead with general := ?_ }
          show left.registers.general.set x.val (left.random.head.toUInt8 &&& mask) = _
          rw [same.general, words takes]
          rfl
      | _ => cases takes
  | false =>
      have noCall : ∀ target, instruction ≠ .call target := fun target eq => call ⟨target, eq⟩
      obtain ⟨noted, course⟩ := effect_disguise noCall ret takes
      rw [ahead.eq_disguise, course]
      apply ofDisguise
      rw [stack_effect]
      split
      · exact absurd rfl ret
      · exact absurd rfl (noCall _)
      · exact ahead.returns

/-- The steps of machines that look the same come to the same. -/
theorem outcome_eq (same : left.LooksLike right) : left.step.1 = right.step.1 := by
  simp only [step, same.keypad, same.fetch_eq, same.obstacle?_eq]
  split
  · rfl
  · split
    · rfl
    · split <;> rfl

theorem executed?_eq (same : left.LooksLike right) (event : Event) :
    left.executed? event = right.executed? event := by
  cases event <;> simp only [executed?, same.outcome_eq]

theorem taker?_eq (same : left.LooksLike right) (event : Event) :
    left.taker? event = right.taker? event := by
  rw [taker?, taker?, same.executed?_eq]

theorem outcomes_eq (same : left.LooksLike right) (event : Event) :
    left.outcomes [event] = right.outcomes [event] := by
  cases event with
  | step => exact congrArg (fun outcome => [outcome]) same.outcome_eq
  | tick | press | release | acknowledge => rfl

theorem press (same : left.LooksLike right) (key : Key) :
    (left.press key).LooksLike (right.press key) := by
  simp only [Machine.press, same.keypad]
  split
  · rename_i x awaiting
    refine { same with general := ?_, counter := ?_, keypad := rfl }
    · exact congrArg (fun general => general.set x.val key.byte) same.general
    · exact congrArg (· + 2) same.counter
  · exact { same with keypad := rfl }

/-- Machines that look the same look the same behind an event, if they take the same word for a
random number. -/
theorem after (same : left.LooksLike right)
    (words : (left.taker? event).isSome → left.random.head = right.random.head) :
    (left.after event).LooksLike (right.after event) := by
  cases event with
  | tick => exact { same with timers := congrArg Timers.tick same.timers }
  | release key => exact { same with keypad := congrArg (Keypad.release · key) same.keypad }
  | acknowledge => exact { same with }
  | press key => exact same.press key
  | step =>
      rw [after_step, after_step]
      cases executed : left.executed? .step with
      | none =>
          have executed' := (same.executed?_eq .step).symm.trans executed
          rw [step_of_executed?_none executed, step_of_executed?_none executed']
          exact same
      | some instruction =>
          have executed' := (same.executed?_eq .step).symm.trans executed
          rw [(step_of_executed? executed).2, (step_of_executed? executed').2]
          apply same.perform
          intro takes
          apply words
          simp [taker?, executed, Option.filter_some, takes]

end LooksLike

namespace AgreesUpTo

/-- Machines that agree in the word that an event may take and in some more behave the same, and
agree in the rest of the words behind the event. -/
theorem after {rest : Nat}
    (agrees : left.AgreesUpTo ((left.taker? event).toList.length + rest) right) :
    left.outcomes [event] = right.outcomes [event] ∧
      (left.after event).AgreesUpTo rest (right.after event) := by
  have same := agrees.toLooksLike
  have words := agrees.words
  rw [RandomWords.peek_add, RandomWords.peek_add] at words
  obtain ⟨taken, later⟩ := List.append_inj words (by simp)
  refine ⟨same.outcomes_eq event, same.after fun takes => ?_, ?_⟩
  · obtain ⟨taker, takerEq⟩ := Option.isSome_iff_exists.mp takes
    rw [takerEq] at taken
    exact (List.cons.inj taken).1
  · rw [random_after, random_after, ← same.taker?_eq]
    exact later

/-- Machines that agree in the words that some events take and in some more behave the same, and
agree in the rest of the words behind the events. -/
theorem afterAll {rest : Nat}
    (agrees : left.AgreesUpTo ((left.takers events).length + rest) right) :
    left.outcomes events = right.outcomes events ∧
      (left.afterAll events).AgreesUpTo rest (right.afterAll events) := by
  induction events generalizing left right with
  | nil =>
      have none : (left.takers []).length + rest = rest := Nat.zero_add rest
      exact ⟨rfl, none ▸ agrees⟩
  | cons event others ih =>
      rw [takers_cons, List.length_append, Nat.add_assoc] at agrees
      have counted : ((left.taker? event).map (left, ·)).toList.length =
          (left.taker? event).toList.length := by
        cases left.taker? event <;> rfl
      rw [counted] at agrees
      obtain ⟨outcome, next⟩ := agrees.after
      obtain ⟨outcomes, last⟩ := ih next
      refine ⟨?_, last⟩
      rw [← List.singleton_append, outcomes_append, outcomes_append, outcome]
      exact congrArg _ outcomes

/-- Machines that agree in all words that some events take cannot be told apart by them. -/
theorem sameConduct {count : Nat} (agrees : left.AgreesUpTo count right)
    (enough : (left.takers events).length ≤ count) : left.SameConduct right events := by
  have early : ∀ first, first <+: events →
      left.outcomes first = right.outcomes first ∧
        (left.afterAll first).LooksLike (right.afterAll first) := by
    rintro first ⟨second, rfl⟩
    rw [takers_append, List.length_append] at enough
    have fits : (left.takers first).length + (count - (left.takers first).length) = count := by
      omega
    obtain ⟨outcomes, still⟩ := (fits ▸ agrees).afterAll
    exact ⟨outcomes, still.toLooksLike⟩
  obtain ⟨outcomes, looks⟩ := early events List.prefix_rfl
  exact ⟨outcomes, fun first begins => (early first begins).2.requiredKeys_eq, looks⟩

/-- Machines that compare as equal look the same and agree in the next two words. -/
theorem ofAgrees (equal : left.agrees right = true) : left.AgreesUpTo 2 right := by
  simp only [agrees, Bool.and_eq_true, beq_iff_eq] at equal
  obtain ⟨⟨⟨⟨⟨⟨memory, registers⟩, timers⟩, keypad⟩, screen⟩, tested⟩, words⟩ := equal
  refine ⟨⟨memory, ?_, ?_, ?_, ?_, timers, keypad, screen, tested⟩, words⟩
  · rw [registers]
  · exact congrArg Registers.index registers
  · exact congrArg Registers.counter registers
  · rw [registers]

end AgreesUpTo

/-- What can be seen of a machine determines its future. Two machines that look the same, whatever
is left in dead slots of their call stacks and noted about their screens, and that agree in some
number of random words, cannot be told apart by events that take at most so many words: all steps
come to the same, the same keys matter throughout, and the machines still look the same at the
end. If the machines compare as equal, that number is two. -/
theorem visible_state_determines (left right : Machine) (events : List Event) :
    (∀ count, left.AgreesUpTo count right → (left.takers events).length ≤ count →
      left.SameConduct right events) ∧
    (left.agrees right = true → (left.takers events).length ≤ 2 →
      left.SameConduct right events) :=
  ⟨fun _ agrees enough => agrees.sameConduct enough,
    fun equal enough => (AgreesUpTo.ofAgrees equal).sameConduct enough⟩

/-- A program that draws a random number and waits for a key, in a machine with litter in the dead
slots of its call stack, and in one whose screen was taken note of. -/
theorem visible_state_determines_litter :
    let machine := boot [0xC0, 0xFF, 0xF3, 0x0A] 5
    let littered := machine.disguise ⟨.replicate stackSize 0x300, 0, by decide⟩ machine.random false
    let events : List Event := [.step, .step, .tick, .press ⟨7⟩]
    machine.AgreesUpTo 2 littered ∧ (machine.takers events).length ≤ 2 ∧
      machine.SameConduct littered events ∧
      machine.agrees machine.acknowledgeScreen = true ∧
      machine.SameConduct machine.acknowledgeScreen events := by
  intro machine littered events
  have enough : (machine.takers events).length ≤ 2 := machine.length_takers_le events
  have agrees : machine.AgreesUpTo 2 littered :=
    ⟨⟨rfl, rfl, rfl, rfl, rfl, rfl, rfl, rfl, rfl⟩, rfl⟩
  have equal (machine : Machine) : machine.agrees machine.acknowledgeScreen = true := by
    simp [Machine.agrees, acknowledgeScreen]
  exact ⟨agrees, enough, (visible_state_determines machine littered events).1 2 agrees enough,
    equal machine,
    (visible_state_determines machine _ events).2 (equal machine) enough⟩

end Machine

end Chip8
