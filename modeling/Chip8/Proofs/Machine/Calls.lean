import Chip8.Proofs.Machine.Bounds
import Chip8.Proofs.Machine.Faults

/-!
# Calls and returns

The call stack is an array whose dead slots keep their old values. Here it is read through its live
return addresses (`Machine.returns`), which no instruction touches but a call and a return, and
compared with what was executed. A call has been returned from when there have been more returns
than calls since (`Returned`); the calls of which this is not so are the open ones, and behind
them lie the live return addresses. `Machine.calls_bracketed` says this of every course of events,
says that a return leads back behind the call that it belongs to, and says when a call or a return
cannot be executed.
-/

namespace Chip8

namespace Instruction

/-- Whether an instruction is a call. -/
def isCall : Instruction → Bool
  | .call _ => true
  | _ => false

/-- Whether an instruction is a return. -/
def isReturn : Instruction → Bool
  | .ret => true
  | _ => false

end Instruction

/-- A call has been returned from if, at some time, there have been more returns than calls among
the instructions executed since. -/
def Returned (since : List Instruction) : Prop :=
  ∃ first, first <+: since ∧
    first.countP Instruction.isCall < first.countP Instruction.isReturn

/-- The number of returns among some instructions that belong to calls before them. -/
def outerReturns : List Instruction → Nat
  | [] => 0
  | instruction :: rest =>
      if instruction.isCall then outerReturns rest - 1
      else if instruction.isReturn then outerReturns rest + 1
      else outerReturns rest

/-- More returns than some number belong to calls before exactly if, at some time, there have been
more returns on top of the calls than that number. -/
theorem lt_outerReturns_iff {number : Nat} {since : List Instruction} :
    number < outerReturns since ↔
      ∃ first, first <+: since ∧
        first.countP Instruction.isCall + number < first.countP Instruction.isReturn := by
  induction since generalizing number with
  | nil => simp [outerReturns]
  | cons instruction rest ih =>
      -- no return lies in the empty beginning, so one that counts starts with the instruction
      have begins :
          (∃ first, first <+: instruction :: rest ∧
              first.countP Instruction.isCall + number < first.countP Instruction.isReturn) ↔
            ∃ first, first <+: rest ∧
              (instruction :: first).countP Instruction.isCall + number <
                (instruction :: first).countP Instruction.isReturn := by
        constructor
        · rintro ⟨first, begins, more⟩
          cases first with
          | nil => exact absurd more (Nat.not_lt_zero _)
          | cons other others =>
              obtain ⟨rfl, later⟩ := List.cons_prefix_cons.mp begins
              exact ⟨others, later, more⟩
        · rintro ⟨first, later, more⟩
          exact ⟨instruction :: first, List.cons_prefix_cons.mpr ⟨rfl, later⟩, more⟩
      rw [begins]
      cases instruction <;>
        simp only [outerReturns, List.countP_cons, Instruction.isCall, Instruction.isReturn,
          if_true, Bool.false_eq_true, if_false, Nat.add_zero]
      case call target =>
        have deeper := @ih (number + 1)
        simp only [← Nat.add_assoc, Nat.add_right_comm _ number 1] at deeper
        rw [← deeper]
        omega
      case ret =>
        cases number with
        | zero => exact ⟨fun _ => ⟨[], List.nil_prefix, by simp⟩, fun _ => by omega⟩
        | succ number => simp only [Nat.add_lt_add_iff_right, ← Nat.add_assoc, ih]
      all_goals exact ih

/-- A call has been returned from exactly if a return belongs to it or to a call before it. -/
theorem returned_iff {since : List Instruction} : Returned since ↔ 0 < outerReturns since :=
  (@lt_outerReturns_iff 0 since).symm

instance : DecidablePred Returned := fun _ => decidable_of_iff _ returned_iff.symm

example : ¬Returned [.call 0x204, .ret] ∧ Returned [.call 0x204, .ret, .ret, .call 0x204] := by
  decide

namespace Machine

/-- The live return addresses as numbers, oldest first. -/
def returns (machine : Machine) : List Nat := machine.registers.stack.toList.map UInt16.toNat

/-- The machines among those that have executed instructions whose calls have not been returned
from, oldest first. -/
def openCalls : List (Machine × Instruction) → List Machine
  | [] => []
  | (caller, instruction) :: rest =>
      if instruction.isCall ∧ ¬Returned (rest.map (·.2)) then caller :: openCalls rest
      else openCalls rest

variable {machine : Machine} {instruction : Instruction} {event : Event} {events : List Event}
  {fault : Fault} {address : UInt16}

theorem length_returns (machine : Machine) :
    machine.returns.length = machine.registers.stack.depth := by
  simp [returns]

/-! ## What instructions do to the live return addresses -/

/-- A call that is executed puts the address behind it on top. -/
theorem returns_perform_call {target : Address} (fetched : machine.fetch = .ok (.call target))
    (free : machine.obstacle? (.call target) = none) :
    (machine.perform (.call target)).returns =
      machine.returns ++ [machine.counter.toNat + 2] := by
  have behind : machine.advance.counter.toNat = machine.counter.toNat + 2 :=
    toNat_counter_of_fetch fetched
  cases push : machine.advance.registers.stack.push? machine.advance.counter with
  | none =>
      have full : machine.registers.stack.depth = stackSize := CallStack.push?_eq_none_iff.mp push
      simp [obstacle?, full] at free
  | some pushed =>
      rw [returns, perform, stack_effect, push, Option.getD_some, CallStack.toList_of_push? push,
        List.map_append, List.map_singleton, behind]
      rfl

/-- A return that is executed takes the topmost address away and continues there. -/
theorem returns_perform_ret (free : machine.obstacle? .ret = none) :
    machine.returns =
      (machine.perform .ret).returns ++ [(machine.perform .ret).counter.toNat] := by
  cases pop : machine.advance.registers.stack.pop? with
  | none =>
      have empty : machine.registers.stack.depth = 0 := CallStack.pop?_eq_none_iff.mp pop
      simp [obstacle?, empty] at free
  | some popped =>
      have live : machine.registers.stack.toList = popped.2.toList ++ [popped.1] :=
        CallStack.toList_of_pop? pop
      rw [returns, returns, perform, stack_effect, counter_effect, pop, live, List.map_append]
      rfl

/-- Every other instruction leaves them alone. -/
theorem returns_perform (noCall : instruction.isCall = false)
    (noReturn : instruction.isReturn = false) :
    (machine.perform instruction).returns = machine.returns := by
  rw [returns, perform, stack_effect]
  split
  · cases noReturn
  · cases noCall
  · rfl

/-- What an event does to the live return addresses depends on what it executes. -/
theorem returns_cases (machine : Machine) (event : Event) :
    (∃ target, machine.executed? event = some (.call target) ∧
        (machine.after event).returns = machine.returns ++ [machine.counter.toNat + 2]) ∨
      (machine.executed? event = some .ret ∧
        machine.returns =
          (machine.after event).returns ++ [(machine.after event).counter.toNat]) ∨
      ((∀ instruction, machine.executed? event = some instruction →
          instruction.isCall = false ∧ instruction.isReturn = false) ∧
        (machine.after event).returns = machine.returns) := by
  cases event with
  | tick | release | acknowledge => exact .inr (.inr ⟨by simp [executed?], rfl⟩)
  | press key =>
      refine .inr (.inr ⟨by simp [executed?], ?_⟩)
      simp only [after, press]
      split <;> rfl
  | step =>
      rw [after_step]
      rcases machine.step_cases with
        ⟨_, course⟩ | ⟨_, _, course⟩ | ⟨instruction, _, fetched, free, course⟩ <;>
          simp only [executed?, course]
      · exact .inr (.inr ⟨by simp, trivial⟩)
      · exact .inr (.inr ⟨by simp, trivial⟩)
      · cases called : instruction.isCall with
        | true =>
            cases instruction with
            | call target => exact .inl ⟨target, rfl, returns_perform_call fetched free⟩
            | _ => cases called
        | false =>
            cases returned : instruction.isReturn with
            | true =>
                cases instruction with
                | ret => exact .inr (.inl ⟨rfl, returns_perform_ret free⟩)
                | _ => cases returned
            | false =>
                refine .inr (.inr ⟨?_, returns_perform called returned⟩)
                rintro _ ⟨⟩
                exact ⟨called, returned⟩

/-! ## From a call to the return that belongs to it -/

/-- Addresses at the bottom stay there as long as the stack does not become lower than they are. -/
theorem prefix_returns_after {bottom : List Nat} (under : bottom <+: machine.returns)
    (deep : bottom.length ≤ (machine.after event).returns.length) :
    bottom <+: (machine.after event).returns := by
  rcases machine.returns_cases event with ⟨_, _, called⟩ | ⟨_, returned⟩ | ⟨_, same⟩
  · rw [called]
    exact under.trans (List.prefix_append _ _)
  · apply List.prefix_of_prefix_length_le under _ deep
    rw [returned]
    exact List.prefix_append _ _
  · rw [same]
    exact under

/-- What holds of every machine that meets an event, and of the last one, holds of the first. -/
theorem of_chronicle (holds : Machine → Prop)
    (throughout : ∀ entry ∈ machine.chronicle events, holds entry.1)
    (last : holds (machine.afterAll events)) : holds machine := by
  cases events with
  | nil => exact last
  | cons event rest => exact throughout (machine, event) List.mem_cons_self

/-- Addresses at the bottom stay there throughout. -/
theorem prefix_returns_afterAll {bottom : List Nat} (under : bottom <+: machine.returns)
    (deep : ∀ entry ∈ machine.chronicle events, bottom.length ≤ entry.1.returns.length)
    (last : bottom.length ≤ (machine.afterAll events).returns.length) :
    bottom <+: (machine.afterAll events).returns := by
  induction events generalizing machine with
  | nil => exact under
  | cons event rest ih =>
      obtain ⟨_, later⟩ := List.forall_mem_cons.mp deep
      have deepNext := of_chronicle (bottom.length ≤ ·.returns.length) later last
      exact ih (prefix_returns_after under deepNext) later last

/-! ## The open calls -/

/-- What is left of some live return addresses when some instructions have been executed: those of
them to which nothing has returned, and those of the calls that are still open. -/
def standing (returns : List Nat) (executed : List (Machine × Instruction)) : List Nat :=
  returns.take (returns.length - outerReturns (executed.map (·.2))) ++
    (openCalls executed).map (·.counter.toNat + 2)

variable {returns : List Nat} {executed : List (Machine × Instruction)}

@[simp] theorem standing_nil (returns : List Nat) : standing returns [] = returns := by
  simp [standing, outerReturns, openCalls]

/-- A call adds its address, which is taken away again if the call is returned from. -/
theorem standing_call (target : Address) :
    standing returns ((machine, .call target) :: executed) =
      standing (returns ++ [machine.counter.toNat + 2]) executed := by
  have matched : outerReturns (((machine, .call target) :: executed).map (·.2)) =
      outerReturns (executed.map (·.2)) - 1 := rfl
  rw [standing, standing, matched, List.length_append, List.length_singleton]
  by_cases returned : Returned (executed.map (·.2))
  · have outer := returned_iff.mp returned
    rw [openCalls, if_neg fun still => still.2 returned,
      List.take_append_of_le_length (by omega)]
    congr 2
    omega
  · have outer : outerReturns (executed.map (·.2)) = 0 := by
      rw [returned_iff] at returned
      omega
    rw [openCalls, if_pos ⟨rfl, returned⟩, outer, List.take_of_length_le (by simp),
      List.take_of_length_le (by simp), List.map_cons, List.append_assoc, List.singleton_append]

/-- A return takes the topmost address away. -/
theorem standing_ret (address : Nat) :
    standing (returns ++ [address]) ((machine, .ret) :: executed) = standing returns executed := by
  have outer : outerReturns (((machine, .ret) :: executed).map (·.2)) =
      outerReturns (executed.map (·.2)) + 1 := rfl
  have noCall : openCalls ((machine, .ret) :: executed) = openCalls executed := if_neg nofun
  rw [standing, standing, outer, noCall, List.length_append, List.length_singleton,
    List.take_append_of_le_length (by omega), Nat.add_sub_add_right]

theorem standing_other (noCall : instruction.isCall = false)
    (noReturn : instruction.isReturn = false) :
    standing returns ((machine, instruction) :: executed) = standing returns executed := by
  simp [standing, outerReturns, openCalls, noCall, noReturn]

/-- Whatever happens to a machine, its live return addresses are those that are left of the first
ones and those of the open calls. -/
theorem returns_afterAll (machine : Machine) (events : List Event) :
    (machine.afterAll events).returns =
      standing machine.returns (machine.executions events) := by
  induction events generalizing machine with
  | nil => exact (standing_nil _).symm
  | cons event rest ih =>
      rw [afterAll, ih, executions_cons]
      rcases machine.returns_cases event with
        ⟨target, executes, called⟩ | ⟨executes, returned⟩ | ⟨other, same⟩
      · rw [executes, called]
        exact (standing_call target).symm
      · rw [executes, returned]
        exact (standing_ret _).symm
      · rw [same]
        cases executes : machine.executed? event with
        | none => rfl
        | some instruction =>
            obtain ⟨noCall, noReturn⟩ := other instruction executes
            exact (standing_other noCall noReturn).symm

/-! ## Calls and returns that cannot be executed -/

/-- A fetch that fails is not about the call stack. -/
theorem fetch_error (failed : machine.fetch = .error fault) (address : UInt16) :
    fault ≠ .stackOverflow address ∧ fault ≠ .stackUnderflow address := by
  simp only [fetch, Memory.read] at failed
  split at failed
  · rename_i refused
    split at refused <;> cases refused
    cases failed
    simp
  · rename_i refused
    split at refused <;> cases refused
    cases failed
    simp
  · split at failed <;> cases failed
    simp

/-- A range that leaves memory is not about the call stack. -/
theorem rangeFault?_ne_stack (start length : Nat) (address : UInt16) :
    Memory.rangeFault? start length ≠ some (.stackOverflow address) ∧
      Memory.rangeFault? start length ≠ some (.stackUnderflow address) := by
  rw [Memory.rangeFault?]
  split <;> simp

/-- Only a call on a full stack overflows it. -/
theorem obstacle?_eq_stackOverflow_iff :
    machine.obstacle? instruction = some (.stackOverflow address) ↔
      address = machine.counter ∧ (∃ target, instruction = .call target) ∧
        machine.registers.stack.depth = stackSize := by
  have ranges := fun length =>
    (rangeFault?_ne_stack machine.index.toNat length address).1
  cases instruction <;>
    simp [obstacle?, ranges, and_comm, @eq_comm _ address machine.counter]

/-- Only a return on an empty stack underflows it. -/
theorem obstacle?_eq_stackUnderflow_iff :
    machine.obstacle? instruction = some (.stackUnderflow address) ↔
      address = machine.counter ∧ instruction = .ret ∧ machine.registers.stack.depth = 0 := by
  have ranges := fun length =>
    (rangeFault?_ne_stack machine.index.toNat length address).2
  cases instruction <;>
    simp [obstacle?, ranges, and_comm, @eq_comm _ address machine.counter]

/-- A step faults with what keeps a fetched instruction from being executed, as long as the fault
does not come from the fetch. -/
theorem step_faulted_iff_obstacle?
    (fetches : ∀ other, machine.fetch = .error other → other ≠ fault) :
    machine.step.1 = .faulted fault ↔
      machine.keypad.awaiting = none ∧
        ∃ instruction, machine.fetch = .ok instruction ∧
          machine.obstacle? instruction = some fault := by
  rw [step_faulted_iff]
  constructor
  · rintro ⟨ready, blocked⟩
    rw [blocked?] at blocked
    split at blocked
    · rename_i other failed
      exact absurd (Option.some.inj blocked) (fetches other failed)
    · rename_i instruction fetched
      exact ⟨ready, instruction, fetched, blocked⟩
  · rintro ⟨ready, instruction, fetched, obstacle⟩
    refine ⟨ready, ?_⟩
    rw [blocked?, fetched]
    exact obstacle

/-- Between a call and the return that belongs to it, the stack stands on what it was before the
call and on the address behind the call. -/
theorem returns_of_nested {target : Address} (called : machine.step.1 = .executed (.call target))
    (deep : ∀ entry ∈ machine.step.2.chronicle events,
      machine.returns.length < entry.1.returns.length)
    (last : (machine.step.2.afterAll events).returns.length = machine.returns.length + 1) :
    (machine.step.2.afterAll events).returns =
      machine.returns ++ [machine.counter.toNat + 2] := by
  have executes := executed?_step_iff.mpr called
  have entered : machine.step.2.returns = machine.returns ++ [machine.counter.toNat + 2] := by
    rcases machine.returns_cases .step with ⟨_, _, entered⟩ | ⟨returns, _⟩ | ⟨other, _⟩
    · exact entered
    · cases executes.symm.trans returns
    · cases (other _ executes).1
  have length : (machine.returns ++ [machine.counter.toNat + 2]).length =
      machine.returns.length + 1 := List.length_append
  have under : machine.returns ++ [machine.counter.toNat + 2] <+:
      (machine.step.2.afterAll events).returns := by
    apply prefix_returns_afterAll
    · exact entered ▸ List.prefix_rfl
    · intro entry listed
      exact Nat.le_trans (Nat.le_of_eq length) (deep entry listed)
    · exact Nat.le_of_eq (length.trans last.symm)
  exact (under.eq_of_length (length.trans last.symm)).symm

/-- A return that is executed continues at the topmost address and takes it away. -/
theorem returns_step_ret (returned : machine.step.1 = .executed .ret) :
    machine.returns = machine.step.2.returns ++ [machine.step.2.counter.toNat] := by
  have executes := executed?_step_iff.mpr returned
  rcases machine.returns_cases .step with ⟨_, calls, _⟩ | ⟨_, left⟩ | ⟨other, _⟩
  · cases executes.symm.trans calls
  · exact left
  · cases (other _ executes).2

/-- Calls and returns are bracketed. From a call on, as long as the stack stays higher than it was
before the call, the first return to that height continues behind the call and leaves the live
return addresses as they were before it. On every course from a fresh machine the live return
addresses are those behind the calls that have not been returned from, oldest first. A step
overflows the stack exactly if it finds a call at the counter and the stack full, and underflows it
exactly if it finds a return there and the stack empty. -/
theorem calls_bracketed :
    (∀ (machine : Machine) (target : Address) (inside : List Event),
      machine.step.1 = .executed (.call target) →
      (∀ entry ∈ machine.step.2.chronicle inside,
        machine.returns.length < entry.1.returns.length) →
      let last := machine.step.2.afterAll inside
      last.returns.length = machine.returns.length + 1 →
      last.step.1 = .executed .ret →
        last.step.2.counter.toNat = machine.counter.toNat + 2 ∧
        last.step.2.registers.stack.toList = machine.registers.stack.toList) ∧
    (∀ (image : List UInt8) (seed : UInt64) (events : List Event),
      ((boot image seed).afterAll events).returns =
        (openCalls ((boot image seed).executions events)).map (·.counter.toNat + 2)) ∧
    ∀ (machine : Machine) (address : UInt16),
      (machine.step.1 = .faulted (.stackOverflow address) ↔
        address = machine.counter ∧ machine.keypad.awaiting = none ∧
          (∃ target, machine.fetch = .ok (.call target)) ∧ machine.returns.length = 16) ∧
      (machine.step.1 = .faulted (.stackUnderflow address) ↔
        address = machine.counter ∧ machine.keypad.awaiting = none ∧
          machine.fetch = .ok .ret ∧ machine.returns.length = 0) := by
  refine ⟨?bracket, ?course, fun machine address => ⟨?overflow, ?underflow⟩⟩
  case bracket =>
    intro machine target inside called deep last low returned
    have nested : last.returns = machine.returns ++ [machine.counter.toNat + 2] :=
      returns_of_nested called deep low
    have left := returns_step_ret returned
    obtain ⟨stack, counter⟩ := List.append_inj' (left.symm.trans nested) rfl
    refine ⟨List.singleton_inj.mp counter, ?_⟩
    exact (List.map_inj_right fun _ _ => UInt16.toNat_inj.mp).mp stack
  case course =>
    intro image seed events
    have fresh : (boot image seed).returns = [] := rfl
    rw [returns_afterAll, fresh, standing, List.take_nil, List.nil_append]
  case overflow =>
    rw [step_faulted_iff_obstacle? fun _ failed => (fetch_error failed address).1]
    simp only [obstacle?_eq_stackOverflow_iff, length_returns, stackSize]
    constructor
    · rintro ⟨ready, _, fetched, here, ⟨target, rfl⟩, full⟩
      exact ⟨here, ready, ⟨target, fetched⟩, full⟩
    · rintro ⟨here, ready, ⟨target, fetched⟩, full⟩
      exact ⟨ready, _, fetched, here, ⟨target, rfl⟩, full⟩
  case underflow =>
    rw [step_faulted_iff_obstacle? fun _ failed => (fetch_error failed address).2]
    simp only [obstacle?_eq_stackUnderflow_iff, length_returns]
    constructor
    · rintro ⟨ready, _, fetched, here, rfl, empty⟩
      exact ⟨here, ready, fetched, empty⟩
    · rintro ⟨here, ready, fetched, empty⟩
      exact ⟨ready, _, fetched, here, rfl, empty⟩

/-- A subroutine that calls another one: the return from the outer one leads behind the outer
call, although the slot above was in use meanwhile. -/
theorem calls_bracketed_nested :
    let caller := boot [0x22, 0x04, 0, 0, 0x22, 0x08, 0x00, 0xEE, 0x00, 0xEE] 0
    let last := caller.step.2.afterAll [.step, .tick, .step]
    caller.step.1 = .executed (.call 0x204) ∧ last.step.1 = .executed .ret ∧
      last.step.2.counter.toNat = 0x202 ∧ last.step.2.registers.stack.toList = [] := by
  -- the course of the events, for machines that nothing tries to evaluate
  have course {first second third fourth : Machine} {one two three : Instruction}
      (early : first.step = (.executed one, second)) (mid : second.step = (.executed two, third))
      (late : third.tick.step = (.executed three, fourth)) :
      first.step.2.chronicle [.step, .tick, .step] =
          [(second, .step), (third, .tick), (third.tick, .step)] ∧
        first.step.2.afterAll [.step, .tick, .step] = fourth := by
    simp only [Machine.chronicle, afterAll, after, early, mid, late, and_self]
  intro caller last
  let entered := caller.perform (.call 0x204)
  let deepest := entered.perform (.call 0x208)
  let left := deepest.tick.perform .ret
  have outer : caller.step = (.executed (.call 0x204), entered) :=
    step_of_fetch rfl (fetch_of_image rfl (by decide) (by decide)) rfl
  have inner : entered.step = (.executed (.call 0x208), deepest) :=
    step_of_fetch rfl (fetch_of_image rfl (by decide) (by decide)) rfl
  have back : deepest.tick.step = (.executed .ret, left) :=
    step_of_fetch rfl (fetch_of_image rfl (by decide) (by decide)) rfl
  have further : left.step = (.executed .ret, left.perform .ret) :=
    step_of_fetch rfl (fetch_of_image rfl (by decide) (by decide)) rfl
  obtain ⟨met, reached⟩ := course outer inner back
  have called : caller.step.1 = .executed (.call 0x204) := by rw [outer]
  have deep : ∀ entry ∈ caller.step.2.chronicle [.step, .tick, .step],
      caller.returns.length < entry.1.returns.length := by
    rw [met]
    simp only [length_returns]
    decide
  have low : last.returns.length = caller.returns.length + 1 := by
    rw [show last = left from reached]
    simp only [length_returns]
    decide
  have returned : last.step.1 = .executed .ret := by
    rw [show last = left from reached, further]
  exact ⟨called, returned, calls_bracketed.1 caller 0x204 _ called deep low returned⟩

end Machine

end Chip8
