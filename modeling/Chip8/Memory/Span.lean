import Chip8.Memory

/-!
# Ranges given by two machine words

A caller outside the machine names a range by two 64-bit numbers. The end of the range is computed
in 64 bits, so a range whose end has no 64-bit number is refused for that reason, before any
address is looked at; every other range is read as `Memory.slice` reads it.
-/

namespace Chip8

/-- Why a range named by two 64-bit numbers cannot be read. -/
inductive SpanError where
  /-- `address + length` is not a 64-bit number. -/
  | endOverflow
  /-- The range leaves memory. -/
  | fault (fault : Fault)
  deriving DecidableEq, Repr

namespace Memory

/-- The address behind the range, if it is a 64-bit number. The plain addition of machine words is
read as checked here: where it overflows, it fails. -/
def spanEnd? (address length : UInt64) : Option UInt64 :=
  if address.toNat + length.toNat < UInt64.size then some (address + length) else none

/-- The bytes of a range named by two 64-bit numbers. The empty range is read anywhere. -/
def sliceSpan (memory : Memory) (address length : UInt64) : Except SpanError (List UInt8) :=
  if length = 0 then .ok []
  else
    match spanEnd? address length with
    | none => .error .endOverflow
    | some stop =>
        if memorySize < stop.toNat then
          .error (.fault (.memoryOutOfBounds (max address.toNat memorySize)))
        else .ok (memory.range address.toNat length.toNat)

/-- A range whose end is a 64-bit number is read as `slice` reads it. -/
theorem sliceSpan_eq_slice (memory : Memory) {address length : UInt64}
    (representable : address.toNat + length.toNat < UInt64.size) :
    memory.sliceSpan address length =
      (memory.slice address.toNat length.toNat).mapError .fault := by
  have stopEq : (address + length).toNat = address.toNat + length.toNat := by
    rw [UInt64.toNat_add, Nat.mod_eq_of_lt representable]
  have stop : spanEnd? address length = some (address + length) := by
    rw [spanEnd?, if_pos representable]
  by_cases empty : length = 0
  · have nothing : memory.slice address.toNat length.toNat = .ok [] := by
      simp [slice, rangeFault?, range, empty]
    rw [nothing]
    show memory.sliceSpan address length = .ok []
    simp [sliceSpan, empty]
  · have positive : length.toNat ≠ 0 := fun zero => empty (UInt64.toNat_inj.mp zero)
    by_cases inside : address.toNat + length.toNat ≤ memorySize
    · have all : memory.slice address.toNat length.toNat =
          .ok (memory.range address.toNat length.toNat) := by
        simp [slice, rangeFault?, inside]
      rw [all]
      show memory.sliceSpan address length = .ok (memory.range address.toNat length.toNat)
      simp [sliceSpan, stop, empty, stopEq, Nat.not_lt.mpr inside]
    · have outside : memory.slice address.toNat length.toNat =
          .error (.memoryOutOfBounds (max address.toNat memorySize)) := by
        simp [slice, rangeFault?, positive, inside]
      rw [outside]
      show memory.sliceSpan address length =
        .error (.fault (.memoryOutOfBounds (max address.toNat memorySize)))
      simp [sliceSpan, stop, empty, stopEq, Nat.lt_of_not_le inside]

end Memory

end Chip8
