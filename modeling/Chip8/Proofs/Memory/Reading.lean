import Chip8.Memory.Span

/-!
# Ranges and single bytes

A range is read in one go, behind a single check of its end. `Memory.slice_eq_readEach` says that
this comes to the same as reading the bytes at its addresses one after the other, and
`Memory.readEach_eq` what that comes to. A range given by two machine words is read in this way as
long as the address behind it is a machine word as well. One that reaches further is refused, as it
has to be, but not with its first address outside memory (`Memory.sliceSpan_reads`).
-/

namespace Chip8.Memory

/-- Read the bytes at some addresses, one after the other. -/
def readEach (memory : Memory) (addresses : List Nat) : Except Fault (List UInt8) :=
  addresses.mapM memory.read

/-- Single bytes are read up to the first address that lies outside memory. -/
theorem readEach_eq (memory : Memory) (addresses : List Nat) :
    memory.readEach addresses =
      match addresses.find? (memorySize ≤ ·) with
      | none => .ok (addresses.map memory.cell)
      | some outside => .error (.memoryOutOfBounds outside) := by
  induction addresses with
  | nil => rfl
  | cons first rest ih =>
      rw [readEach] at ih
      rw [readEach, List.mapM_cons, read, ih]
      by_cases inside : first < memorySize
      · rw [if_pos inside, List.find?_cons_of_neg (by simpa using inside)]
        cases rest.find? (memorySize ≤ ·) <;> rfl
      · rw [if_neg inside, List.find?_cons_of_pos (by simpa using inside)]
        rfl

/-- A range is refused with the first of its addresses that lies outside memory. -/
theorem rangeFault?_eq_find? (address length : Nat) :
    rangeFault? address length =
      ((List.range' address length).find? (memorySize ≤ ·)).map .memoryOutOfBounds := by
  rw [rangeFault?]
  split
  case isTrue accepted =>
    have allInside : (List.range' address length).find? (memorySize ≤ ·) = none := by
      refine List.find?_range'_eq_none.mpr fun place from_le lt_end => ?_
      simp only [Bool.not_eq_true', decide_eq_false_iff_not]
      omega
    rw [allInside]
    rfl
  case isFalse leaves =>
    have firstOutside : (List.range' address length).find? (memorySize ≤ ·) =
        some (max address memorySize) := by
      refine List.find?_range'_eq_some.mpr ⟨?_, ?_, fun place from_le lt_first => ?_⟩
      · exact decide_eq_true (Nat.le_max_right address memorySize)
      · rw [List.mem_range'_1]
        omega
      · simp only [Bool.not_eq_true', decide_eq_false_iff_not]
        omega
    rw [firstOutside]
    rfl

/-- Reading a range comes to the same as reading its bytes one after the other. -/
theorem slice_eq_readEach (memory : Memory) (address length : Nat) :
    memory.slice address length = memory.readEach (List.range' address length) := by
  have bytes : memory.range address length = (List.range' address length).map memory.cell := by
    rw [range, List.range'_eq_map_range, List.map_map]
    rfl
  rw [slice, rangeFault?_eq_find?, readEach_eq, bytes]
  cases (List.range' address length).find? (memorySize ≤ ·) <;> rfl

/-- A range whose end is no machine word is refused for this. -/
theorem sliceSpan_of_endless (memory : Memory) {address length : UInt64}
    (endless : UInt64.size ≤ address.toNat + length.toNat) :
    memory.sliceSpan address length = .error .endOverflow := by
  have nonempty : length ≠ 0 := by
    rintro rfl
    exact Nat.not_le.mpr address.toNat_lt_size endless
  rw [sliceSpan, if_neg nonempty, spanEnd?, if_neg (Nat.not_lt.mpr endless)]

/-- The single bytes of such a range are refused as well, and with a machine word: the first of its
addresses that lies outside memory. -/
theorem readEach_of_endless (memory : Memory) {address length : UInt64}
    (endless : UInt64.size ≤ address.toNat + length.toNat) :
    memory.readEach (List.range' address.toNat length.toNat) =
      .error (.memoryOutOfBounds (max address.toNat memorySize)) := by
  have beyond : ¬(length.toNat = 0 ∨ address.toNat + length.toNat ≤ memorySize) := by
    have word := address.toNat_lt_size
    simp only [UInt64.size, memorySize] at endless word ⊢
    omega
  rw [← slice_eq_readEach, slice, rangeFault?, if_neg beyond]

/-- How the bytes of a range given by two machine words are read. If the address behind the range is
a machine word, this comes to the same as reading the bytes at its addresses one after the other: to
all these bytes if the addresses lie in memory, and otherwise to the fault of the first that does
not. If it is none, the range is refused for that. Whatever the words are, bytes are given exactly
when the single reads give them, and they are the same. -/
theorem sliceSpan_reads (memory : Memory) (address length : UInt64) :
    let addresses := List.range' address.toNat length.toNat
    memory.sliceSpan address length =
        (if address.toNat + length.toNat < UInt64.size then
          (memory.readEach addresses).mapError .fault
        else .error .endOverflow) ∧
      (memory.sliceSpan address length).toOption = (memory.readEach addresses).toOption ∧
      memory.readEach addresses =
        match addresses.find? (memorySize ≤ ·) with
        | none => .ok (addresses.map memory.cell)
        | some outside => .error (.memoryOutOfBounds outside) := by
  intro addresses
  by_cases representable : address.toNat + length.toNat < UInt64.size
  · have inSingleReads : memory.sliceSpan address length =
        (memory.readEach addresses).mapError .fault := by
      rw [sliceSpan_eq_slice memory representable, slice_eq_readEach]
    rw [inSingleReads, if_pos representable]
    refine ⟨rfl, ?_, memory.readEach_eq addresses⟩
    cases memory.readEach addresses <;> rfl
  · have endless := Nat.not_lt.mp representable
    rw [sliceSpan_of_endless memory endless, if_neg representable]
    refine ⟨rfl, ?_, memory.readEach_eq addresses⟩
    rw [readEach_of_endless memory endless]
    rfl

/-- Not all ranges are refused as their single bytes are: the range of two bytes from the last
machine word on is not, although its first address lies outside memory. -/
theorem sliceSpan_refuses_end :
    ¬∀ (memory : Memory) (address length : UInt64),
      memory.sliceSpan address length =
        (memory.readEach (List.range' address.toNat length.toNat)).mapError .fault := by
  intro agrees
  have endless : UInt64.size ≤ (0xFFFFFFFFFFFFFFFF : UInt64).toNat + (2 : UInt64).toNat := by
    decide
  have same := agrees blank 0xFFFFFFFFFFFFFFFF 2
  rw [sliceSpan_of_endless blank endless, readEach_of_endless blank endless] at same
  cases same

end Chip8.Memory
