import Chip8.Proofs.Machine.Effects

/-!
# One random word for each random number

The random words of a machine are a sequence that is fixed by its seed, and a position in it. Only
an instruction that asks for a random number moves the position, by one. Faults, waiting, ticks,
keys and comparisons, which look two words ahead, leave it alone: `Machine.one_word_per_random`
says so of every run, also behind a stored state that was taken over.
-/

namespace Chip8

/-- Whether an instruction takes a random word. -/
def Instruction.takesWord : Instruction → Bool
  | .random _ _ => true
  | _ => false

/-- The sequence behind some more of its words. -/
def RandomWords.skip (words : RandomWords) (count : Nat) : RandomWords :=
  { words with taken := words.taken + count }

theorem RandomWords.skip_skip (words : RandomWords) (first second : Nat) :
    (words.skip first).skip second = words.skip (first + second) := by
  simp only [skip, Nat.add_assoc]

/-- Looking ahead is looking at some words and then ahead of them. -/
theorem RandomWords.peek_add (words : RandomWords) (first second : Nat) :
    words.peek (first + second) = words.peek first ++ (words.skip first).peek second := by
  induction first generalizing words with
  | zero =>
      rw [Nat.zero_add]
      rfl
  | succ first ih =>
      have later : words.tail.skip first = words.skip (first + 1) := by
        simp only [skip, tail, Nat.add_assoc, Nat.add_comm 1]
      rw [Nat.add_right_comm, peek, ih, later]
      rfl

@[simp] theorem RandomWords.length_peek (words : RandomWords) (count : Nat) :
    (words.peek count).length = count := by
  induction count generalizing words with
  | zero => rfl
  | succ count ih => rw [peek, List.length_cons, ih]

namespace Machine

/-- Something that is done with a machine. -/
inductive Use where
  | event (event : Event)
  /-- The machine is compared with another one. -/
  | compare (other : Machine)

/-- The event of a use, if it is one. -/
def Use.event? : Use → Option Event
  | .event happening => some happening
  | .compare _ => none

/-- What a comparison answers, and the machine behind a use. -/
def use (machine : Machine) : Use → Option Bool × Machine
  | .event event => (none, machine.after event)
  | .compare other => (some (machine.agrees other), machine)

/-- The machine behind a list of uses, the first of which comes first. -/
def useAll (machine : Machine) : List Use → Machine
  | [] => machine
  | use :: rest => (machine.use use).2.useAll rest

/-- The instruction that an event executes, if it takes a random word. -/
def taker? (machine : Machine) (event : Event) : Option Instruction :=
  (machine.executed? event).filter Instruction.takesWord

/-- The instructions among those executed that take a random word, in order, each with the machine
that executes it. -/
def takers (machine : Machine) (events : List Event) : List (Machine × Instruction) :=
  (machine.executions events).filter fun execution => execution.2.takesWord

/-- The random words of a machine are those of a seed from a position on, and whoever uses the
machine, each instruction that asks for a random number receives the next of them. -/
structure ServedInOrder (machine : Machine) (seed : UInt64) (position : Nat) (uses : List Use) :
    Prop where
  /-- Comparisons leave no trace. -/
  traceless : machine.useAll uses = machine.afterAll (uses.filterMap Use.event?)
  /-- One word is taken for each random number that was asked for. -/
  taken : (machine.useAll uses).random =
    ⟨seed, position + (machine.takers (uses.filterMap Use.event?)).length⟩
  /-- It is the next word that is taken, and its low byte that is used. -/
  served : ∀ (count : Nat) (before : Machine) (x : Register) (mask : UInt8),
    (machine.takers (uses.filterMap Use.event?))[count]? = some (before, .random x mask) →
      before.step.1 = .executed (.random x mask) ∧
        before.step.2.reg x =
          (RandomWords.word seed (position + count)).toUInt8 &&& mask

variable {machine before : Machine} {instruction : Instruction}

/-! ## One event -/

/-- The words that an executed instruction leaves. -/
theorem random_perform (machine : Machine) (instruction : Instruction) :
    (machine.perform instruction).random =
      machine.random.skip (if instruction.takesWord then 1 else 0) := by
  rw [perform, random_effect]
  cases instruction <;> rfl

/-- A random number is the low byte of the next word, masked. -/
theorem reg_perform_random (machine : Machine) (x : Register) (mask : UInt8) :
    (machine.perform (.random x mask)).reg x = machine.random.head.toUInt8 &&& mask :=
  (Registers.get_set machine.advance.registers x x _).trans (if_pos rfl)

theorem takers_cons (machine : Machine) (event : Event) (rest : List Event) :
    machine.takers (event :: rest) =
      ((machine.taker? event).map (machine, ·)).toList ++ (machine.after event).takers rest := by
  rw [takers, executions_cons, List.filter_append, taker?]
  congr 1
  cases machine.executed? event with
  | none => rfl
  | some instruction =>
      cases takes : instruction.takesWord <;> simp [Option.filter_some, takes]

@[simp] theorem takers_append (machine : Machine) (first second : List Event) :
    machine.takers (first ++ second) =
      machine.takers first ++ (machine.afterAll first).takers second := by
  rw [takers, executions_append, List.filter_append]
  rfl

/-- An event takes a word if the instruction that it executes takes one. -/
theorem random_after (machine : Machine) (event : Event) :
    (machine.after event).random = machine.random.skip (machine.taker? event).toList.length := by
  rw [taker?]
  cases executed : machine.executed? event with
  | some instruction =>
      obtain ⟨rfl, course⟩ := step_of_executed? executed
      rw [after_step, course, random_perform]
      cases takes : instruction.takesWord <;> simp [Option.filter_some, takes]
  | none =>
      cases event with
      | step =>
          rw [after_step, step_of_executed?_none executed]
          rfl
      | press key =>
          simp only [after, press]
          split <;> rfl
      | tick | release | acknowledge => rfl

/-! ## Runs -/

/-- Only steps take words, one at most. -/
theorem length_takers_le (machine : Machine) (events : List Event) :
    (machine.takers events).length ≤ events.count .step := by
  induction events generalizing machine with
  | nil => exact Nat.le_refl 0
  | cons event rest ih =>
      have later := ih (machine.after event)
      rw [takers_cons, List.length_append, List.count_cons]
      cases event with
      | step =>
          have one : ((machine.taker? .step).map (machine, ·)).toList.length ≤ 1 := by
            cases machine.taker? .step <;> simp
          simp only [beq_self_eq_true, if_true]
          omega
      | tick | press | release | acknowledge =>
          exact Nat.le_trans (Nat.le_of_eq (Nat.zero_add _)) later

/-- Events take one word for each random number that is asked for. -/
theorem random_afterAll (machine : Machine) (events : List Event) :
    (machine.afterAll events).random = machine.random.skip (machine.takers events).length := by
  induction events generalizing machine with
  | nil => rfl
  | cons event rest ih =>
      rw [afterAll, ih, random_after, RandomWords.skip_skip, takers_cons, List.length_append]
      cases machine.taker? event <;> rfl

/-- When an instruction takes a word, as many words have been taken as instructions have taken one
before it. -/
theorem random_of_getElem?_takers {events : List Event} {count : Nat}
    (listed : (machine.takers events)[count]? = some (before, instruction)) :
    before.random = machine.random.skip count := by
  induction events generalizing machine count with
  | nil => cases listed
  | cons event rest ih =>
      have moved := machine.random_after event
      rw [takers_cons] at listed
      cases taker : machine.taker? event with
      | none =>
          rw [taker] at listed moved
          rw [ih listed, moved]
          rfl
      | some other =>
          rw [taker] at listed moved
          cases count with
          | zero =>
              cases listed
              rfl
          | succ count =>
              rw [ih listed, moved, RandomWords.skip_skip, Nat.add_comm count]
              rfl

/-- Comparisons can be left out. -/
theorem useAll_eq (machine : Machine) (uses : List Use) :
    machine.useAll uses = machine.afterAll (uses.filterMap Use.event?) := by
  induction uses generalizing machine with
  | nil => rfl
  | cons use rest ih => cases use <;> exact ih _

/-- Whoever uses a machine, its random words are served in order from where they stand. -/
theorem servedInOrder (machine : Machine) (uses : List Use) :
    machine.ServedInOrder machine.random.seed machine.random.taken uses where
  traceless := useAll_eq machine uses
  taken := by
    rw [useAll_eq, random_afterAll]
    rfl
  served := by
    intro count before x mask listed
    have course := step_of_mem_executions
      (List.mem_filter.mp (List.mem_of_getElem? listed)).1
    have standing := random_of_getElem?_takers listed
    rw [course, reg_perform_random, standing]
    exact ⟨rfl, rfl⟩

/-- One random word for each random number. Whatever happens to a machine from its start on, and
whatever it is compared with: it has taken as many words of the sequence of its seed as
instructions were executed that ask for a random number, and the one among them that is counted by
a number, from zero, has stored the low byte of the word at that position, masked. From a stored
state that was taken over, the same holds with the sequence and the position of that state. -/
theorem one_word_per_random :
    (∀ (image : List UInt8) (seed : UInt64) (uses : List Use),
      (boot image seed).ServedInOrder seed 0 uses) ∧
    ∀ (machine stored : Machine) (uses : List Use),
      (machine.restore stored).ServedInOrder stored.random.seed stored.random.taken uses :=
  ⟨fun image seed uses => (boot image seed).servedInOrder uses,
    fun machine stored uses => (machine.restore stored).servedInOrder uses⟩

/-- What a stored state is about to execute is executed by whoever takes it over. -/
theorem step_of_restored {stored : Machine} (machine : Machine)
    (ready : stored.keypad.awaiting = none) (fetched : stored.fetch = .ok instruction)
    (free : (machine.restore stored).obstacle? instruction = none) :
    (machine.restore stored).step =
      (.executed instruction, (machine.restore stored).perform instruction) :=
  step_of_fetch ready ((fetch_congr rfl rfl).trans fetched) free

/-- A program that asks for two random numbers, the second of them behind a tick and a comparison.
Another machine that takes over what was stored between the two goes on with the second word. -/
theorem one_word_per_random_second :
    let machine := boot [0xC0, 0xFF, 0xC1, 0x0F] 7
    let uses : List Use := [.event .step, .event .tick, .compare machine, .event .step]
    let stored := machine.afterAll [.step, .tick]
    let restored := (boot [0x00, 0xEE] 3).restore stored
    let second := (RandomWords.word 7 1).toUInt8 &&& 0x0F
    (machine.useAll uses).random = ⟨7, 2⟩ ∧ stored.step.2.reg 1 = second ∧
      restored.step.2.reg 1 = second := by
  intro machine uses stored restored second
  let between := (machine.perform (.random 0 0xFF)).tick
  have first : machine.step = (.executed (.random 0 0xFF), machine.perform (.random 0 0xFF)) :=
    step_of_fetch rfl (fetch_of_image rfl (by decide) (by decide)) rfl
  have next : between.fetch = .ok (.random 1 0x0F) :=
    fetch_of_image rfl (by decide) (by decide)
  have later : between.step.1 = .executed (.random 1 0x0F) :=
    congrArg Prod.fst (step_of_fetch rfl next rfl)
  have again := congrArg Prod.fst (step_of_restored (boot [0x00, 0xEE] 3) rfl next rfl)
  -- stated of any machines, so that nothing of them is evaluated
  have listed (machine between : Machine)
      (first : machine.step = (.executed (.random 0 0xFF), between))
      (later : between.tick.step.1 = .executed (.random 1 0x0F)) :
      machine.afterAll [.step, .tick] = between.tick ∧
        machine.takers [.step, .tick, .step] =
          [(machine, .random 0 0xFF), (between.tick, .random 1 0x0F)] := by
    simp [afterAll, after, takers, executions, chronicle, executed?, first, later,
      Instruction.takesWord]
  have once (machine : Machine) (ready : machine.step.1 = .executed (.random 1 0x0F)) :
      machine.takers [.step] = [(machine, .random 1 0x0F)] := by
    simp [takers, executions, chronicle, executed?, ready, Instruction.takesWord]
  obtain ⟨reached, takers⟩ := listed machine _ first later
  obtain ⟨run, restoring⟩ := one_word_per_random
  have run := run [0xC0, 0xFF, 0xC1, 0x0F] 7 uses
  have restoring : ((boot [0x00, 0xEE] 3).restore between).ServedInOrder 7 1 [.event .step] :=
    restoring (boot [0x00, 0xEE] 3) between [.event .step]
  have taken := run.taken
  rw [show uses.filterMap Use.event? = [.step, .tick, .step] from rfl, takers] at taken
  refine ⟨taken, ?_, ?_⟩
  · rw [show stored = between from reached]
    exact (run.served 1 _ _ _ (congrArg (·[1]?) takers)).2
  · rw [show restored = (boot [0x00, 0xEE] 3).restore between from
      congrArg (boot [0x00, 0xEE] 3).restore reached]
    exact (restoring.served 0 _ _ _ (congrArg (·[0]?) (once _ again))).2

end Machine

end Chip8
