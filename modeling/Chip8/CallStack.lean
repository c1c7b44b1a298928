/-!
# The call stack

Sixteen slots for return addresses, used from the bottom. A slot that was popped keeps its value
until the next push; `CallStack.toList` shows the live slots only.
-/

namespace Chip8

/-- The number of return addresses that fit. -/
def stackSize : Nat := 16

/-- Return addresses, the first `depth` of them live. -/
structure CallStack where
  slots : Vector UInt16 stackSize
  depth : Nat
  depth_le : depth ≤ stackSize
  deriving DecidableEq

namespace CallStack

/-- No live return address, all slots zero. -/
def empty : CallStack := ⟨Vector.replicate stackSize 0, 0, Nat.zero_le _⟩

/-- The live return addresses, oldest first. -/
def toList (stack : CallStack) : List UInt16 :=
  stack.slots.toList.take stack.depth

/-- Add a return address, unless all slots are live. -/
def push? (stack : CallStack) (address : UInt16) : Option CallStack :=
  if room : stack.depth < stackSize then
    some ⟨stack.slots.set stack.depth address, stack.depth + 1, room⟩
  else none

/-- Take the newest return address away, unless there is none. -/
def pop? (stack : CallStack) : Option (UInt16 × CallStack) :=
  if live : 0 < stack.depth then
    have bound : stack.depth - 1 < stackSize := by have := stack.depth_le; omega
    some (stack.slots[stack.depth - 1], ⟨stack.slots, stack.depth - 1, Nat.le_of_lt bound⟩)
  else none

@[simp] theorem toList_empty : empty.toList = [] := rfl

@[simp] theorem length_toList (stack : CallStack) : stack.toList.length = stack.depth := by
  simp [toList, stack.depth_le]

/-- A push fails exactly on a full stack. -/
theorem push?_eq_none_iff {stack : CallStack} {address : UInt16} :
    stack.push? address = none ↔ stack.depth = stackSize := by
  have := stack.depth_le
  simp only [push?]
  split <;> simp <;> omega

/-- A pop fails exactly on an empty stack. -/
theorem pop?_eq_none_iff {stack : CallStack} : stack.pop? = none ↔ stack.depth = 0 := by
  simp only [pop?]
  split <;> simp <;> omega

/-- A push appends the address to the live ones. -/
theorem toList_of_push? {stack pushed : CallStack} {address : UInt16}
    (push : stack.push? address = some pushed) : pushed.toList = stack.toList ++ [address] := by
  simp only [push?] at push
  split at push
  · rename_i room
    cases push
    have bound : stack.depth < stack.slots.toList.length := by simpa using room
    rw [toList, toList, Vector.toList_set, List.take_add_one, List.take_set_of_le (Nat.le_refl _),
      List.getElem?_set_self bound]
    rfl
  · cases push

/-- A pop removes the newest of the live addresses and returns it. -/
theorem toList_of_pop? {stack popped : CallStack} {address : UInt16}
    (pop : stack.pop? = some (address, popped)) : stack.toList = popped.toList ++ [address] := by
  simp only [pop?] at pop
  split at pop
  · rename_i live
    cases pop
    have bound : stack.depth - 1 < stack.slots.toList.length := by
      have := stack.depth_le
      simp; omega
    have depthEq : stack.depth = (stack.depth - 1) + 1 := by omega
    simp only [toList]
    conv => lhs; rw [depthEq]
    rw [List.take_add_one, List.getElem?_eq_getElem bound]
    simp
  · cases pop

/-- What a pop makes of the live addresses. -/
theorem map_pop? (stack : CallStack) :
    stack.pop?.map (fun popped => (popped.1, popped.2.toList)) =
      stack.toList.getLast?.map (·, stack.toList.dropLast) := by
  cases pop : stack.pop? with
  | none =>
      have empty : stack.toList = [] := by
        rw [← List.length_eq_zero_iff, length_toList, pop?_eq_none_iff.mp pop]
      rw [empty]
      rfl
  | some popped =>
      rw [toList_of_pop? pop, List.getLast?_concat, List.dropLast_concat]
      rfl

/-- What a push makes of the live addresses. -/
theorem map_push? (stack : CallStack) (address : UInt16) :
    (stack.push? address).map toList =
      if stack.toList.length = stackSize then none else some (stack.toList ++ [address]) := by
  rw [length_toList]
  cases push : stack.push? address with
  | none => exact (if_pos (push?_eq_none_iff.mp push)).symm
  | some pushed =>
      have room : stack.depth ≠ stackSize := fun full => by
        cases push.symm.trans (push?_eq_none_iff.mpr full)
      rw [if_neg room, ← toList_of_push? push]
      rfl

end CallStack

end Chip8
