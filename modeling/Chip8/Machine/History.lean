import Chip8.Machine.Execution

/-!
# Histories of a machine

Everything that can happen to a machine, as values, so that a finite course of events is a list.
`Machine.afterAll` is the machine at its end, `Machine.outcomes` what its steps came to, and
`Machine.chronicle` shows beside every event the machine that met it. `Machine.Reachable` are the
machines that come about in this way, stored states included.
-/

namespace Chip8.Machine

/-- Something that happens to a machine. -/
inductive Event where
  | step
  | tick
  | press (key : Key)
  | release (key : Key)
  /-- Somebody takes note of the screen. -/
  | acknowledge
  deriving DecidableEq, Repr

/-- The machine behind an event. -/
def after (machine : Machine) : Event → Machine
  | .step => machine.step.2
  | .tick => machine.tick
  | .press key => machine.press key
  | .release key => machine.release key
  | .acknowledge => machine.acknowledgeScreen

/-- The machine behind a list of events, the first of which happens first. -/
def afterAll (machine : Machine) : List Event → Machine
  | [] => machine
  | event :: rest => (machine.after event).afterAll rest

/-- The instruction that an event executes, if it executes one. -/
def executed? (machine : Machine) : Event → Option Instruction
  | .step =>
      match machine.step.1 with
      | .executed instruction => some instruction
      | _ => none
  | _ => none

/-- What the steps among the events come to, in order. -/
def outcomes (machine : Machine) : List Event → List Outcome
  | [] => []
  | .step :: rest => machine.step.1 :: machine.step.2.outcomes rest
  | event :: rest => (machine.after event).outcomes rest

/-- Every event with the machine that met it, in order. -/
def chronicle (machine : Machine) : List Event → List (Machine × Event)
  | [] => []
  | event :: rest => (machine, event) :: (machine.after event).chronicle rest

/-- The instructions that the events execute, in order, each with the machine that executes it. -/
def executions (machine : Machine) (events : List Event) : List (Machine × Instruction) :=
  (machine.chronicle events).filterMap fun (before, event) =>
    (before.executed? event).map fun instruction => (before, instruction)

/-- The machines that come about from any program and any seed. -/
inductive Reachable : Machine → Prop where
  | boot (image : List UInt8) (seed : UInt64) : Reachable (.boot image seed)
  | after {machine : Machine} (event : Event) :
      Reachable machine → Reachable (machine.after event)
  | restore {machine stored : Machine} :
      Reachable machine → Reachable stored → Reachable (machine.restore stored)

@[simp] theorem afterAll_append (machine : Machine) (first second : List Event) :
    machine.afterAll (first ++ second) = (machine.afterAll first).afterAll second := by
  induction first generalizing machine with
  | nil => rfl
  | cons event rest ih => exact ih (machine.after event)

@[simp] theorem outcomes_append (machine : Machine) (first second : List Event) :
    machine.outcomes (first ++ second) =
      machine.outcomes first ++ (machine.afterAll first).outcomes second := by
  induction first generalizing machine with
  | nil => rfl
  | cons event rest ih => cases event <;> simp [outcomes, afterAll, after, ih]

@[simp] theorem chronicle_append (machine : Machine) (first second : List Event) :
    machine.chronicle (first ++ second) =
      machine.chronicle first ++ (machine.afterAll first).chronicle second := by
  induction first generalizing machine with
  | nil => rfl
  | cons event rest ih => simp [chronicle, afterAll, ih]

/-- The executions of some events are the one of the first event, if there is one, and those of the
others. -/
theorem executions_cons (machine : Machine) (event : Event) (rest : List Event) :
    machine.executions (event :: rest) =
      ((machine.executed? event).map (machine, ·)).toList ++
        (machine.after event).executions rest := by
  cases executed : machine.executed? event <;>
    simp [executions, chronicle, executed]

@[simp] theorem executions_append (machine : Machine) (first second : List Event) :
    machine.executions (first ++ second) =
      machine.executions first ++ (machine.afterAll first).executions second := by
  simp [executions]

/-- What happens to a reachable machine leaves it reachable. -/
theorem Reachable.afterAll {machine : Machine} (reachable : Reachable machine)
    (events : List Event) : Reachable (machine.afterAll events) := by
  induction events generalizing machine with
  | nil => exact reachable
  | cons event rest ih => exact ih (reachable.after event)

end Chip8.Machine
