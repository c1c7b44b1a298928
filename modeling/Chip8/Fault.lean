import Chip8.Text.Hex

/-!
# Faults

A fault is a reason why the instruction at the program counter cannot be executed. Each cause is
a constructor; `Fault.message` is the only place that knows the wording.
-/

namespace Chip8

/-- Why an instruction cannot be executed. -/
inductive Fault where
  /-- The word at `address` is not an instruction. -/
  | invalidOpcode (opcode address : UInt16)
  /-- `address` is the first address outside memory that had to be touched. -/
  | memoryOutOfBounds (address : Nat)
  /-- A call at `address` found the call stack full. -/
  | stackOverflow (address : UInt16)
  /-- A return at `address` found the call stack empty. -/
  | stackUnderflow (address : UInt16)
  deriving DecidableEq, Repr

namespace Fault

/-- The sentence that reports a fault. -/
def message : Fault → String
  | invalidOpcode opcode address =>
      "invalid opcode " ++ Text.hexLiteral 4 opcode.toNat ++ " at " ++
        Text.hexLiteral 3 address.toNat
  | memoryOutOfBounds address =>
      "memory access out of bounds at " ++ Text.hexLiteral 4 address
  | stackOverflow address =>
      "call stack overflow at " ++ Text.hexLiteral 3 address.toNat
  | stackUnderflow address =>
      "return with empty call stack at " ++ Text.hexLiteral 3 address.toNat

end Fault

end Chip8
