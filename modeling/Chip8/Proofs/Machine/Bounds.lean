import Chip8.Proofs.Machine.Effects

/-!
# Bounds that every reachable machine keeps

The counter of a machine can leave memory, but not by much: `Machine.InBounds` bounds it by the
highest address that an offset jump can name, and bounds return addresses and the counter of a
waiting machine by memory. `Reachable.inBounds` says that these bounds hold for every reachable
machine. Each operation keeps them by a lemma of its own.
-/

namespace Chip8.Machine

/-- Where the counter, the live return addresses and the latch of a machine can be. -/
structure InBounds (machine : Machine) : Prop where
  /-- The highest address plus the highest byte. -/
  counter_le : machine.counter.toNat ≤ 0x10FE
  depth_le : machine.registers.stack.depth ≤ 16
  /-- A return address lies behind an instruction that was fetched from memory. -/
  returns : ∀ address ∈ machine.registers.stack.toList, 2 ≤ address.toNat ∧ address.toNat ≤ 4096
  /-- A machine that waits for a key stands on an instruction that was fetched from memory. -/
  latch : ∀ x, machine.keypad.awaiting = some x → x.val < 16 ∧ machine.counter.toNat ≤ 4094

/-- Moving the counter behind an instruction that lies in memory does not wrap it. -/
theorem toNat_counter_advance {machine : Machine} (inside : machine.counter.toNat ≤ 0x10FE) :
    machine.advance.counter.toNat = machine.counter.toNat + 2 := by
  show (machine.counter + 2).toNat = _
  rw [UInt16.toNat_add]
  exact Nat.mod_eq_of_lt (by simp; omega)

theorem toNat_counter_of_fetch {machine : Machine} {instruction : Instruction}
    (fetched : machine.fetch = .ok instruction) :
    machine.advance.counter.toNat = machine.counter.toNat + 2 := by
  have inside : machine.counter.toNat + 2 ≤ 4096 := counter_add_two_le_of_fetch fetched
  exact toNat_counter_advance (by omega)

/-- The counter stays in bounds, whatever is executed. Every instruction that moves it takes it
from one of five sources: an address of its own, that address and a byte, a return address, or
the counter itself, two further on or back. -/
theorem counter_effect_le {machine : Machine} (high : machine.counter.toNat ≤ 4096)
    (low : 2 ≤ machine.counter.toNat)
    (returns : ∀ address ∈ machine.registers.stack.toList, address.toNat ≤ 4096)
    (instruction : Instruction) : (machine.effect instruction).counter.toNat ≤ 0x10FE := by
  rw [counter_effect]
  split
  case h_1 =>
    cases pop : machine.registers.stack.pop? with
    | none => simp; omega
    | some popped =>
        have member : popped.1 ∈ machine.registers.stack.toList := by
          rw [CallStack.toList_of_pop? pop]
          simp
        have := returns popped.1 member
        simp
        omega
  case h_2 target =>
    have := target.isLt
    simp
    omega
  case h_3 target =>
    have := target.isLt
    split
    · simp
      omega
    · omega
  case h_4 target =>
    have := target.isLt
    have := (machine.reg offset).toNat_lt
    rw [UInt16.toNat_add]
    simp
    omega
  case h_5 =>
    rw [UInt16.toNat_sub_of_le]
    · simp
      omega
    · simpa [UInt16.le_iff_toNat_le] using low
  case h_6 =>
    split
    · rw [UInt16.toNat_add]
      simp
      omega
    · omega

/-- The counter of an instruction that starts to wait is back on that instruction. -/
theorem toNat_counter_waitForKey {machine : Machine} (low : 2 ≤ machine.counter.toNat)
    (x : Register) :
    (machine.effect (.waitForKey x)).counter.toNat = machine.counter.toNat - 2 := by
  rw [counter_effect]
  exact UInt16.toNat_sub_of_le _ _ (by simpa [UInt16.le_iff_toNat_le] using low)

/-- A call adds the address behind it to the return addresses and no other instruction adds any. -/
theorem mem_returns_effect {machine : Machine} {instruction : Instruction} {address : UInt16}
    (member : address ∈ (machine.effect instruction).registers.stack.toList) :
    address ∈ machine.registers.stack.toList ∨ address = machine.counter := by
  rw [stack_effect] at member
  split at member
  case h_1 =>
    cases pop : machine.registers.stack.pop? with
    | none => exact .inl (by simpa [pop] using member)
    | some popped =>
        rw [CallStack.toList_of_pop? pop]
        exact .inl (List.mem_append_left _ (by simpa [pop] using member))
  case h_2 =>
    cases push : machine.registers.stack.push? machine.counter with
    | none => exact .inl (by simpa [push] using member)
    | some pushed => simpa [push, CallStack.toList_of_push? push] using member
  case h_3 => exact .inl member

namespace InBounds

theorem boot (image : List UInt8) (seed : UInt64) : InBounds (.boot image seed) where
  counter_le := by
    show Registers.initial.counter.toNat ≤ 0x10FE
    decide
  depth_le := Nat.zero_le _
  returns := by
    intro address member
    cases member
  latch := by
    intro x awaiting
    cases awaiting

/-- Executing an instruction that was fetched keeps the bounds. -/
theorem perform {machine : Machine} (inBounds : InBounds machine) {instruction : Instruction}
    (fetched : machine.fetch = .ok instruction) (ready : machine.keypad.awaiting = none) :
    InBounds (machine.perform instruction) := by
  have inside : machine.counter.toNat + 2 ≤ 4096 := counter_add_two_le_of_fetch fetched
  have advanced : machine.advance.counter.toNat = machine.counter.toNat + 2 :=
    toNat_counter_advance inBounds.counter_le
  refine ⟨?_, CallStack.depth_le _, ?_, ?_⟩
  · apply counter_effect_le
    · omega
    · omega
    · exact fun address member => (inBounds.returns address member).2
  · intro address member
    rcases mem_returns_effect member with old | new
    · exact inBounds.returns address old
    · rw [new]
      omega
  · intro x awaiting
    refine ⟨x.isLt, ?_⟩
    rw [Machine.perform, keypad_effect] at awaiting
    split at awaiting
    · rw [Machine.perform, toNat_counter_waitForKey (by omega)]
      omega
    · have still : machine.keypad.awaiting = some x := awaiting
      rw [ready] at still
      cases still

/-- A step keeps the bounds, whether it executes, waits or faults. -/
theorem step {machine : Machine} (inBounds : InBounds machine) : InBounds machine.step.2 := by
  rcases machine.step_cases with
    ⟨_, course⟩ | ⟨_, _, course⟩ | ⟨instruction, ready, fetched, _, course⟩
  · rw [course]
    exact inBounds
  · rw [course]
    exact inBounds
  · rw [course]
    exact inBounds.perform fetched ready

/-- Completing a waiting instruction moves the counter from inside memory at most to its end. -/
theorem press {machine : Machine} (inBounds : InBounds machine) (key : Key) :
    InBounds (machine.press key) := by
  refine ⟨?_, CallStack.depth_le _, ?_, ?_⟩
  · simp only [Machine.press]
    split
    · rename_i x awaiting
      have inside := (inBounds.latch x awaiting).2
      have advanced := toNat_counter_advance inBounds.counter_le
      show machine.advance.counter.toNat ≤ 0x10FE
      omega
    · exact inBounds.counter_le
  · simp only [Machine.press]
    split <;> exact inBounds.returns
  · intro x awaiting
    simp only [Machine.press] at awaiting
    split at awaiting <;> cases awaiting

/-- Everything that can happen to a machine keeps the bounds. -/
theorem after {machine : Machine} (inBounds : InBounds machine) (event : Event) :
    InBounds (machine.after event) := by
  cases event with
  | step => exact inBounds.step
  | press key => exact inBounds.press key
  | tick | release | acknowledge =>
      exact ⟨inBounds.counter_le, inBounds.depth_le, inBounds.returns, inBounds.latch⟩

end InBounds

/-- The bounds hold for every reachable machine. -/
theorem Reachable.inBounds {machine : Machine} (reachable : Reachable machine) :
    InBounds machine := by
  induction reachable with
  | boot image seed => exact .boot image seed
  | after event _ ih => exact ih.after event
  | restore _ _ _ stored => exact ⟨stored.counter_le, stored.depth_le, stored.returns, stored.latch⟩

end Chip8.Machine
