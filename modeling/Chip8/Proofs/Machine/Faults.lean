import Chip8.Machine.History
import Chip8.Proofs.Machine.Effects

/-!
# Faults are final

Whether the instruction at the counter can be executed is a matter of memory and registers alone
(`Machine.blocked?`), and a machine that does not wait for a key executes it or faults. Neither
ticks nor keys touch memory or registers then, so a machine that has faulted once faults in the
same way for ever, and what a program can change is left as it is: `Machine.Stuck.afterAll`.
-/

namespace Chip8.Machine

/-- Why the instruction at the counter cannot be executed, if it cannot: there is none, or an
obstacle is in its way. -/
def blocked? (machine : Machine) : Option Fault :=
  match machine.fetch with
  | .error fault => some fault
  | .ok instruction => machine.obstacle? instruction

/-- Everything that only instructions change is the same in two machines. Timers, held keys, the
latch and the note on the screen may differ. -/
structure SameWork (machine later : Machine) : Prop where
  memory : later.memory = machine.memory
  registers : later.registers = machine.registers
  screen : later.screen = machine.screen
  tested : later.tested = machine.tested
  random : later.random = machine.random

/-- A machine that waits for no key and cannot execute the instruction at its counter. -/
structure Stuck (machine : Machine) (fault : Fault) : Prop where
  ready : machine.keypad.awaiting = none
  blocked : machine.blocked? = some fault

variable {machine later last : Machine} {fault : Fault}

namespace SameWork

theorem refl (machine : Machine) : SameWork machine machine :=
  ⟨rfl, rfl, rfl, rfl, rfl⟩

theorem trans (first : SameWork machine later) (second : SameWork later last) :
    SameWork machine last where
  memory := second.memory.trans first.memory
  registers := second.registers.trans first.registers
  screen := second.screen.trans first.screen
  tested := second.tested.trans first.tested
  random := second.random.trans first.random

end SameWork

/-- What stands in the way of the next instruction lies in memory and registers. -/
theorem blocked?_congr (memory : later.memory = machine.memory)
    (registers : later.registers = machine.registers) : later.blocked? = machine.blocked? := by
  have counter : later.counter = machine.counter := congrArg Registers.counter registers
  have index : later.index = machine.index := congrArg Registers.index registers
  have fetched : later.fetch = machine.fetch := fetch_congr memory counter
  rw [blocked?, blocked?, fetched]
  cases machine.fetch with
  | error fault => rfl
  | ok instruction =>
      cases instruction <;> simp only [obstacle?, registers, counter, index]

/-- A step faults exactly if the machine is stuck. -/
theorem step_faulted_iff : machine.step.1 = .faulted fault ↔ machine.Stuck fault := by
  rw [step]
  constructor
  · intro faulted
    split at faulted
    · cases faulted
    · rename_i waits
      refine ⟨by simpa using waits, ?_⟩
      rw [blocked?]
      cases fetched : machine.fetch with
      | error other =>
          rw [fetched] at faulted
          cases faulted
          rfl
      | ok instruction =>
          simp only [fetched] at faulted ⊢
          cases obstacle : machine.obstacle? instruction <;> rw [obstacle] at faulted <;>
            cases faulted
          rfl
  · rintro ⟨ready, blocked⟩
    rw [if_neg (by simp [ready])]
    rw [blocked?] at blocked
    cases fetched : machine.fetch with
    | error other =>
        rw [fetched] at blocked
        cases blocked
        rfl
    | ok instruction =>
        simp only [fetched] at blocked
        simp only [blocked]

namespace Stuck

/-- A step of a stuck machine faults and changes nothing. -/
theorem step_eq (stuck : machine.Stuck fault) : machine.step = (.faulted fault, machine) := by
  have faulted := step_faulted_iff.mpr stuck
  refine Prod.ext faulted (step_unchanged ?_)
  intro instruction executed
  cases faulted.symm.trans executed

/-- What happens to a stuck machine does not concern memory, registers or the latch. -/
theorem sameWork_after (stuck : machine.Stuck fault) (event : Event) :
    SameWork machine (machine.after event) ∧ (machine.after event).keypad.awaiting = none := by
  cases event with
  | step =>
      rw [after_step, stuck.step_eq]
      exact ⟨.refl machine, stuck.ready⟩
  | tick | acknowledge | release => exact ⟨⟨rfl, rfl, rfl, rfl, rfl⟩, stuck.ready⟩
  | press key =>
      -- no latch receives the key, so no register does
      simp only [Machine.after, press, stuck.ready]
      exact ⟨⟨rfl, rfl, rfl, rfl, rfl⟩, rfl⟩

/-- Nothing that happens to a stuck machine sets it free. -/
theorem after (stuck : machine.Stuck fault) (event : Event) :
    (machine.after event).Stuck fault := by
  obtain ⟨same, ready⟩ := stuck.sameWork_after event
  exact ⟨ready, (blocked?_congr same.memory same.registers).trans stuck.blocked⟩

/-- Whatever happens to a stuck machine, it stays stuck with its work left as it is. -/
theorem afterAll (stuck : machine.Stuck fault) (events : List Event) :
    (machine.afterAll events).Stuck fault ∧ SameWork machine (machine.afterAll events) := by
  induction events generalizing machine with
  | nil => exact ⟨stuck, .refl machine⟩
  | cons event rest ih =>
      obtain ⟨still, same⟩ := ih (stuck.after event)
      exact ⟨still, (stuck.sameWork_after event).1.trans same⟩

/-- Every later step of a stuck machine reports the same fault. -/
theorem outcomes (stuck : machine.Stuck fault) (events : List Event) :
    ∀ outcome ∈ machine.outcomes events, outcome = .faulted fault := by
  induction events generalizing machine with
  | nil => nofun
  | cons event rest ih =>
      have later := ih (stuck.after event)
      cases event with
      | step =>
          rw [Machine.outcomes, stuck.step_eq]
          rw [after_step, stuck.step_eq] at later
          exact List.forall_mem_cons.mpr ⟨rfl, later⟩
      | tick | press | release | acknowledge => exact later

end Stuck

/-- A fault among the outcomes of some events is the fault of the machine behind them. -/
theorem stuck_of_faulted {events : List Event}
    (faulted : .faulted fault ∈ machine.outcomes events) :
    (machine.afterAll events).Stuck fault := by
  induction events generalizing machine with
  | nil => cases faulted
  | cons event rest ih =>
      cases event with
      | tick | press | release | acknowledge => exact ih faulted
      | step =>
          rcases List.mem_cons.mp faulted with first | later
          · have stuck := step_faulted_iff.mp first.symm
            exact ((stuck.after .step).afterAll rest).1
          · exact ih later

end Chip8.Machine
