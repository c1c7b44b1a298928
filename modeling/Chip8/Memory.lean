import Chip8.Fault

/-!
# Memory

The flat address space of 4096 bytes: the glyphs of the hexadecimal digits at the bottom and the
program image at `programStart`. Single accesses and ranges are refused outside memory with the
first address that lies outside. `Memory.store` writes a whole range; `Memory.cell_store` says
exactly which cells it changes.
-/

namespace Chip8

/-- The number of bytes of memory. -/
def memorySize : Nat := 4096

/-- The address at which a program image is placed. -/
def programStart : Nat := 0x200

/-- The largest program image that fits behind `programStart`. -/
def maxProgramSize : Nat := memorySize - programStart

/-- The number of bytes, and so of rows, of one glyph. -/
def glyphSize : Nat := 5

/-- The glyphs of the sixteen hexadecimal digits, five rows each, digit `0` first. -/
def font : List UInt8 := [
  0xF0, 0x90, 0x90, 0x90, 0xF0,
  0x20, 0x60, 0x20, 0x20, 0x70,
  0xF0, 0x10, 0xF0, 0x80, 0xF0,
  0xF0, 0x10, 0xF0, 0x10, 0xF0,
  0x90, 0x90, 0xF0, 0x10, 0x10,
  0xF0, 0x80, 0xF0, 0x10, 0xF0,
  0xF0, 0x80, 0xF0, 0x90, 0xF0,
  0xF0, 0x10, 0x20, 0x40, 0x40,
  0xF0, 0x90, 0xF0, 0x90, 0xF0,
  0xF0, 0x90, 0xF0, 0x10, 0xF0,
  0xF0, 0x90, 0xF0, 0x90, 0x90,
  0xE0, 0x90, 0xE0, 0x90, 0xE0,
  0xF0, 0x80, 0x80, 0x80, 0xF0,
  0xE0, 0x90, 0x90, 0x90, 0xE0,
  0xF0, 0x80, 0xF0, 0x80, 0xF0,
  0xF0, 0x80, 0xF0, 0x80, 0x80]

/-- The address space. -/
structure Memory where
  bytes : Vector UInt8 memorySize
  deriving DecidableEq

namespace Memory

/-- The byte at an address, and zero outside memory. -/
def cell (memory : Memory) (address : Nat) : UInt8 :=
  if bound : address < memorySize then memory.bytes[address] else 0

/-- Memories are determined by their cells. -/
@[ext]
theorem ext_cell {left right : Memory}
    (cells : ∀ address, address < memorySize → left.cell address = right.cell address) :
    left = right := by
  cases left with | mk left => cases right with | mk right =>
  congr 1
  refine Vector.ext fun address bound => ?_
  simpa [cell, bound] using cells address bound

/-- The byte that a freshly loaded memory holds at an address: the font, then nothing up to
`programStart`, then the image as far as there is one. -/
def initialCell (image : Array UInt8) (address : Nat) : UInt8 :=
  if address < font.length then font.getD address 0
  else if programStart ≤ address then image.getD (address - programStart) 0
  else 0

/-- Memory with the font and a program image in place and zeros elsewhere. What does not fit of
the image is dropped. -/
def ofImage (image : List UInt8) : Memory :=
  let image := image.toArray
  ⟨Vector.ofFn fun address => initialCell image address.val⟩

/-- Memory that holds the font only. -/
def blank : Memory := ofImage []

/-- Reading a freshly loaded memory gives `initialCell`. -/
theorem cell_ofImage (image : List UInt8) {address : Nat} (bound : address < memorySize) :
    (ofImage image).cell address = initialCell image.toArray address := by
  simp [cell, ofImage, bound]

/-- Behind `programStart` a freshly loaded memory holds the image. -/
theorem initialCell_image (image : List UInt8) (offset : Nat) :
    initialCell image.toArray (programStart + offset) = image[offset]?.getD 0 := by
  have behindFont : ¬programStart + offset < font.length := by simp [programStart, font]; omega
  rw [initialCell, if_neg behindFont, if_pos (Nat.le_add_right _ _), Nat.add_sub_cancel_left]
  simp

/-- The byte at an address. -/
def read (memory : Memory) (address : Nat) : Except Fault UInt8 :=
  if address < memorySize then .ok (memory.cell address)
  else .error (.memoryOutOfBounds address)

/-- Replace one byte; outside memory nothing is replaced. -/
def put (memory : Memory) (address : Nat) (value : UInt8) : Memory :=
  ⟨memory.bytes.setIfInBounds address value⟩

/-- What a cell holds after one byte was replaced. -/
theorem cell_put (memory : Memory) (address : Nat) (value : UInt8) {place : Nat}
    (bound : place < memorySize) :
    (memory.put address value).cell place = if address = place then value else memory.cell place := by
  simp [cell, put, bound, Vector.getElem_setIfInBounds bound]

/-- Replace the byte at an address. -/
def write (memory : Memory) (address : Nat) (value : UInt8) : Except Fault Memory :=
  if address < memorySize then .ok (memory.put address value)
  else .error (.memoryOutOfBounds address)

/-- The bytes of a range, in order. -/
def range (memory : Memory) (address length : Nat) : List UInt8 :=
  (List.range length).map fun offset => memory.cell (address + offset)

@[simp] theorem length_range (memory : Memory) (address length : Nat) :
    (memory.range address length).length = length := by
  simp [range]

/-- A byte of a range is the cell at its distance from the start. -/
theorem getD_range (memory : Memory) (address length offset : Nat) (default : UInt8) :
    (memory.range address length).getD offset default =
      if offset < length then memory.cell (address + offset) else default := by
  rw [List.getD_eq_getElem?_getD, range, List.getElem?_map]
  by_cases inside : offset < length
  · rw [if_pos inside, List.getElem?_range inside]
    rfl
  · rw [if_neg inside, List.getElem?_eq_none (by simpa using inside)]
    rfl

/-- The fault of touching `length` bytes from `address` on: the first address of the range that
lies outside memory. An empty range touches nothing. -/
def rangeFault? (address length : Nat) : Option Fault :=
  if length = 0 ∨ address + length ≤ memorySize then none
  else some (.memoryOutOfBounds (max address memorySize))

/-- A range is accepted exactly if it is empty or lies in memory. -/
theorem rangeFault?_eq_none_iff {address length : Nat} :
    rangeFault? address length = none ↔ length = 0 ∨ address + length ≤ memorySize := by
  simp only [rangeFault?]
  split <;> simp_all

@[simp] theorem rangeFault?_zero (address : Nat) : rangeFault? address 0 = none :=
  if_pos (.inl rfl)

/-- The bytes of a range, if all of it lies in memory. -/
def slice (memory : Memory) (address length : Nat) : Except Fault (List UInt8) :=
  match rangeFault? address length with
  | none => .ok (memory.range address length)
  | some fault => .error fault

/-- Replace the bytes from an address on by the given ones. -/
def store (memory : Memory) (address : Nat) : List UInt8 → Memory
  | [] => memory
  | value :: rest => (memory.put address value).store (address + 1) rest

/-- Storing changes exactly the cells of the range, to the given bytes. -/
theorem cell_store (memory : Memory) (address : Nat) (values : List UInt8) {place : Nat}
    (bound : place < memorySize) :
    (memory.store address values).cell place =
      if address ≤ place then values.getD (place - address) (memory.cell place) else memory.cell place := by
  induction values generalizing memory address with
  | nil => simp [store]
  | cons value rest ih =>
      rw [store, ih, cell_put _ _ _ bound]
      by_cases same : address = place
      · subst same
        rw [if_neg (Nat.not_succ_le_self address), if_pos rfl, if_pos (Nat.le_refl address)]
        simp
      · by_cases later : address + 1 ≤ place
        · have step : place - address = (place - (address + 1)) + 1 := by omega
          simp [later, same, step, show address ≤ place by omega]
        · simp [later, same, show ¬ address ≤ place by omega]

/-- Behind an address at which bytes were stored lie these bytes. -/
theorem cell_store_of_inside (memory : Memory) {address offset : Nat} {values : List UInt8}
    (inside : offset < values.length) (bound : address + offset < memorySize) :
    (memory.store address values).cell (address + offset) = values[offset] := by
  rw [cell_store memory address values bound, if_pos (Nat.le_add_right address offset),
    Nat.add_sub_cancel_left, List.getD_eq_getElem?_getD, List.getElem?_eq_getElem inside]
  rfl

/-- Storing changes no cell outside the range. -/
theorem cell_store_of_outside (memory : Memory) {address place : Nat} {values : List UInt8}
    (outside : ¬(address ≤ place ∧ place < address + values.length)) :
    (memory.store address values).cell place = memory.cell place := by
  by_cases bound : place < memorySize
  · rw [cell_store memory address values bound]
    split
    · rw [List.getD_eq_getElem?_getD, List.getElem?_eq_none (by omega)]
      rfl
    · rfl
  · rw [cell, cell, dif_neg bound, dif_neg bound]

/-- The number of bytes that are not zero. -/
def nonZeroCount (memory : Memory) : Nat :=
  memory.bytes.toList.countP (· != 0)

/-- A one-line account of a memory. -/
def summary (memory : Memory) : String :=
  "Memory \x7b size: " ++ toString memorySize ++ ", non_zero: " ++
    toString memory.nonZeroCount ++ " \x7d"

end Memory

end Chip8
