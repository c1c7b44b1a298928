import Chip8.Proofs.Machine.Effects
import Mathlib.Data.List.Induction

/-!
# The timers of a machine

Only two things bear on a timer: an instruction that sets it, and a tick. A timer therefore shows
what it was set to last, less the ticks since then, and never less than zero
(`Machine.toNat_get_afterAll`). Whatever else is executed between the ticks, and whether an
instruction waits for a key, is of no account.
-/

namespace Chip8

/-- The name of one of the two timers. -/
inductive Timer where
  | delay
  | sound
  deriving DecidableEq, Repr

/-- What a timer shows. -/
def Timers.get (timers : Timers) : Timer → UInt8
  | .delay => timers.delay
  | .sound => timers.sound

/-- The register whose value an instruction puts into a timer, if it does. -/
def Instruction.sets? : Instruction → Timer → Option Register
  | .setDelay x, .delay => some x
  | .setSound x, .sound => some x
  | _, _ => none

/-- Something that bears on a timer. -/
inductive Timing where
  | set (value : UInt8)
  | tick
  deriving DecidableEq, Repr

namespace Timing

/-- What the timer shows then. -/
def apply (shown : UInt8) : Timing → UInt8
  | .set value => value
  | .tick => Timers.countDown shown

/-- The value that a timer is set to, if it is. -/
def value? : Timing → Option UInt8
  | .set value => some value
  | .tick => none

/-- The value that a timer was set to last, or the one that it showed initially. -/
def lastSet (initial : UInt8) (timings : List Timing) : UInt8 :=
  (timings.filterMap value?).getLast?.getD initial

/-- The number of ticks since a timer was set last. -/
def ticksSince (timings : List Timing) : Nat :=
  (timings.reverse.takeWhile (· = .tick)).length

/-- What was set last, less the ticks since then, and not less than zero. -/
def left (initial : UInt8) (timings : List Timing) : Nat :=
  (lastSet initial timings).toNat - ticksSince timings

variable {initial : UInt8} {timings : List Timing}

@[simp] theorem lastSet_append_set (value : UInt8) :
    lastSet initial (timings ++ [.set value]) = value := by
  simp [lastSet, value?]

@[simp] theorem lastSet_append_tick :
    lastSet initial (timings ++ [.tick]) = lastSet initial timings := by
  simp [lastSet, value?]

@[simp] theorem ticksSince_append_set (value : UInt8) :
    ticksSince (timings ++ [.set value]) = 0 := by
  simp [ticksSince]

@[simp] theorem ticksSince_append_tick :
    ticksSince (timings ++ [.tick]) = ticksSince timings + 1 := by
  simp [ticksSince]

/-- A timer that does as it is told shows what is left. -/
theorem toNat_foldl_apply (initial : UInt8) (timings : List Timing) :
    (timings.foldl apply initial).toNat = left initial timings := by
  -- from the end, because it is the last setting that counts
  induction timings using List.reverseRecOn with
  | nil => rfl
  | append_singleton earlier timing ih =>
      rw [left] at ih ⊢
      rw [List.foldl_append]
      cases timing with
      | set value =>
          rw [lastSet_append_set, ticksSince_append_set]
          rfl
      | tick =>
          rw [lastSet_append_tick, ticksSince_append_tick, ← Nat.sub_sub, ← ih]
          exact Timers.toNat_countDown _

/-- A timer that is not set counts all ticks. -/
@[simp] theorem left_replicate_tick (initial : UInt8) (ticks : Nat) :
    left initial (List.replicate ticks .tick) = initial.toNat - ticks := by
  rw [left, lastSet, List.filterMap_replicate_of_none rfl]
  simp [ticksSince]

end Timing

namespace Machine

/-- How an event bears on a timer, if it does. -/
def timing? (machine : Machine) (timer : Timer) : Event → Option Timing
  | .tick => some .tick
  | .step =>
      (machine.executed? .step).bind fun instruction =>
        (instruction.sets? timer).map fun x => .set (machine.reg x)
  | _ => none

/-- Everything among some events that bears on a timer, in order. -/
def timings (machine : Machine) (timer : Timer) (events : List Event) : List Timing :=
  (machine.chronicle events).filterMap fun entry => entry.1.timing? timer entry.2

variable {machine : Machine} {timer : Timer}

theorem timings_cons (machine : Machine) (timer : Timer) (event : Event) (rest : List Event) :
    machine.timings timer (event :: rest) =
      (machine.timing? timer event).toList ++ (machine.after event).timings timer rest := by
  rw [timings, chronicle, List.filterMap_cons]
  cases timing : machine.timing? timer event <;> rfl

@[simp] theorem timings_append (machine : Machine) (timer : Timer) (first second : List Event) :
    machine.timings timer (first ++ second) =
      machine.timings timer first ++ (machine.afterAll first).timings timer second := by
  simp [timings]

/-- Both timers rest at first. -/
theorem get_boot (image : List UInt8) (seed : UInt64) (timer : Timer) :
    (boot image seed).timers.get timer = 0 := by
  cases timer <;> rfl

/-- What an executed instruction puts into a timer. -/
theorem get_perform (machine : Machine) (instruction : Instruction) (timer : Timer) :
    (machine.perform instruction).timers.get timer =
      ((instruction.sets? timer).map machine.reg).getD (machine.timers.get timer) := by
  rw [perform, timers_effect]
  cases instruction <;> cases timer <;> rfl

/-- The delay timer, read into a register. -/
theorem reg_perform_readDelay (machine : Machine) (x : Register) :
    (machine.perform (.readDelay x)).reg x = machine.timers.delay :=
  (Registers.get_set machine.advance.registers x x _).trans (if_pos rfl)

/-- A timer does as it is told. -/
theorem get_after (machine : Machine) (timer : Timer) (event : Event) :
    (machine.after event).timers.get timer =
      (machine.timing? timer event).toList.foldl Timing.apply (machine.timers.get timer) := by
  cases event with
  | step =>
      rw [timing?, after_step]
      cases executed : machine.executed? .step with
      | none =>
          rw [step_of_executed?_none executed]
          rfl
      | some instruction =>
          rw [(step_of_executed? executed).2, get_perform, Option.bind_some]
          cases instruction.sets? timer <;> rfl
  | tick => cases timer <;> rfl
  | press key =>
      simp only [after, press]
      split <;> rfl
  | release | acknowledge => rfl

/-- Along any events a timer does as it is told by all that bears on it. -/
theorem get_afterAll (machine : Machine) (timer : Timer) (events : List Event) :
    (machine.afterAll events).timers.get timer =
      (machine.timings timer events).foldl Timing.apply (machine.timers.get timer) := by
  induction events generalizing machine with
  | nil => rfl
  | cons event rest ih =>
      rw [afterAll, ih, get_after, timings_cons, List.foldl_append]

/-- A timer shows what it was set to last, less the ticks since then. -/
theorem toNat_get_afterAll (machine : Machine) (timer : Timer) (events : List Event) :
    ((machine.afterAll events).timers.get timer).toNat =
      Timing.left (machine.timers.get timer) (machine.timings timer events) := by
  rw [get_afterAll, Timing.toNat_foldl_apply]

/-- If no instruction sets a timer, all that bears on it are the ticks. -/
theorem timings_of_not_set {events : List Event}
    (notSet : ∀ execution ∈ machine.executions events, execution.2.sets? timer = none) :
    machine.timings timer events = List.replicate (events.count .tick) .tick := by
  induction events generalizing machine with
  | nil => rfl
  | cons event rest ih =>
      rw [executions_cons] at notSet
      have later := ih fun execution listed => notSet execution (List.mem_append_right _ listed)
      rw [timings_cons, later, List.count_cons]
      cases event with
      | tick => simp [timing?, List.replicate_succ]
      | step =>
          cases executed : machine.executed? .step with
          | none => simp [timing?, executed]
          | some instruction =>
              have idle := notSet (machine, instruction) (by simp [executed])
              simp [timing?, executed, idle]
      | press | release | acknowledge => simp [timing?]

end Machine

end Chip8
