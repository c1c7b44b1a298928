import Chip8.CallStack
import Chip8.Instruction
import Chip8.Memory

/-!
# Registers

The sixteen general-purpose registers, the index, the program counter and the call stack.
-/

namespace Chip8

/-- What the processor holds outside memory. -/
structure Registers where
  /-- The general-purpose registers. -/
  general : Vector UInt8 16
  /-- The address register of memory instructions. -/
  index : UInt16
  /-- The address of the next instruction. -/
  counter : UInt16
  stack : CallStack
  deriving DecidableEq

namespace Registers

/-- All zero, with the counter at the start of the program. -/
def initial : Registers where
  general := Vector.replicate 16 0
  index := 0
  counter := UInt16.ofNat programStart
  stack := .empty

/-- The value of a general-purpose register. -/
def get (registers : Registers) (x : Register) : UInt8 :=
  registers.general[x.val]

/-- Change a general-purpose register. -/
def set (registers : Registers) (x : Register) (value : UInt8) : Registers :=
  { registers with general := registers.general.set x.val value }

/-- The values of the registers before and including `x`, in order. -/
def upTo (registers : Registers) (x : Register) : List UInt8 :=
  registers.general.toList.take (x.val + 1)

/-- Change registers from the first on, one for each value. -/
def setAll (registers : Registers) (values : List UInt8) : Registers :=
  { registers with
    general := Vector.ofFn fun x => values.getD x.val (registers.get x) }

@[simp] theorem length_upTo (registers : Registers) (x : Register) :
    (registers.upTo x).length = x.val + 1 := by
  rw [upTo, List.length_take, Vector.length_toList]
  exact Nat.min_eq_left x.isLt

@[simp] theorem get_set (registers : Registers) (x y : Register) (value : UInt8) :
    (registers.set x value).get y = if x = y then value else registers.get y := by
  simp [get, set, Vector.getElem_set, Fin.ext_iff]

@[simp] theorem get_setAll (registers : Registers) (values : List UInt8) (x : Register) :
    (registers.setAll values).get x = values.getD x.val (registers.get x) := by
  simp [get, setAll]

/-- Push a return address; a full stack is reported for the call at `site`. -/
def push (registers : Registers) (address site : UInt16) : Except Fault Registers :=
  match registers.stack.push? address with
  | some stack => .ok { registers with stack }
  | none => .error (.stackOverflow site)

/-- Pop a return address; an empty stack is reported for the return at `site`. -/
def pop (registers : Registers) (site : UInt16) : Except Fault (UInt16 × Registers) :=
  match registers.stack.pop? with
  | some (address, stack) => .ok (address, { registers with stack })
  | none => .error (.stackUnderflow site)

end Registers

end Chip8
