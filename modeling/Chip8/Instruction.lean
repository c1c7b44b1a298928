/-!
# Instructions

The instruction set of the machine, and the word that stands for each instruction. Operands carry
their width in their type: a register is one of sixteen, an address has twelve bits, so every
value of `Instruction` is well formed and `Instruction.encode` is total.
-/

namespace Chip8

/-- One of the sixteen general-purpose registers. -/
abbrev Register := Fin 16

/-- A twelve-bit address, as an instruction can hold it. -/
abbrev Address := Fin 4096

/-- The register that also receives carries, borrows and collisions. -/
def flag : Register := ⟨15, by decide⟩

/-- The register that is added to the target of an offset jump. -/
def offset : Register := ⟨0, by decide⟩

/-- Everything the machine can be told to do. -/
inductive Instruction where
  /-- Make every pixel dark. -/
  | clearScreen
  /-- Continue after the latest call. -/
  | ret
  | jump (target : Address)
  | call (target : Address)
  | skipIfConstant (x : Register) (n : UInt8)
  | skipUnlessConstant (x : Register) (n : UInt8)
  | skipIfSame (x y : Register)
  | setConstant (x : Register) (n : UInt8)
  /-- Add without touching the flag. -/
  | addConstant (x : Register) (n : UInt8)
  | copy (x y : Register)
  | bitOr (x y : Register)
  | bitAnd (x y : Register)
  | bitXor (x y : Register)
  | add (x y : Register)
  /-- `x` becomes `x - y`. -/
  | subtract (x y : Register)
  | shiftRight (x : Register)
  /-- `x` becomes `y - x`. -/
  | subtractFrom (x y : Register)
  | shiftLeft (x : Register)
  | skipUnlessSame (x y : Register)
  | setIndex (target : Address)
  /-- Jump to an address plus the value of `offset`. -/
  | jumpOffset (target : Address)
  /-- A random byte, masked. -/
  | random (x : Register) (mask : UInt8)
  /-- Draw `height` rows from the index at the coordinates held in `x` and `y`. -/
  | draw (x y : Register) (height : Fin 16)
  | skipIfPressed (x : Register)
  | skipUnlessPressed (x : Register)
  | readDelay (x : Register)
  | waitForKey (x : Register)
  | setDelay (x : Register)
  | setSound (x : Register)
  | addToIndex (x : Register)
  /-- Point the index at the glyph of the low digit of `x`. -/
  | indexGlyph (x : Register)
  /-- Store the three decimal digits of `x` from the index on. -/
  | storeDecimal (x : Register)
  /-- Store the registers up to and including `x` from the index on. -/
  | storeRegisters (x : Register)
  /-- Load the registers up to and including `x` from the index on. -/
  | loadRegisters (x : Register)
  deriving DecidableEq, Repr

namespace Instruction

/-- The word of an instruction with one register: a leading digit, the register, a trailing byte. -/
def registerWord (leading : Nat) (x : Register) (trailing : Nat) : Nat :=
  leading * 4096 + x.val * 256 + trailing

/-- The word of an instruction with two registers: a leading digit, both registers, a last digit. -/
def pairWord (leading : Nat) (x y : Register) (last : Nat) : Nat :=
  leading * 4096 + x.val * 256 + y.val * 16 + last

/-- The word of an instruction with an address: a leading digit and the address. -/
def addressWord (leading : Nat) (target : Address) : Nat :=
  leading * 4096 + target.val

/-- The number of the word that stands for an instruction. -/
def wordNumber : Instruction → Nat
  | clearScreen => 0x00E0
  | ret => 0x00EE
  | jump target => addressWord 0x1 target
  | call target => addressWord 0x2 target
  | skipIfConstant x n => registerWord 0x3 x n.toNat
  | skipUnlessConstant x n => registerWord 0x4 x n.toNat
  | skipIfSame x y => pairWord 0x5 x y 0x0
  | setConstant x n => registerWord 0x6 x n.toNat
  | addConstant x n => registerWord 0x7 x n.toNat
  | copy x y => pairWord 0x8 x y 0x0
  | bitOr x y => pairWord 0x8 x y 0x1
  | bitAnd x y => pairWord 0x8 x y 0x2
  | bitXor x y => pairWord 0x8 x y 0x3
  | add x y => pairWord 0x8 x y 0x4
  | subtract x y => pairWord 0x8 x y 0x5
  | shiftRight x => registerWord 0x8 x 0x06
  | subtractFrom x y => pairWord 0x8 x y 0x7
  | shiftLeft x => registerWord 0x8 x 0x0E
  | skipUnlessSame x y => pairWord 0x9 x y 0x0
  | setIndex target => addressWord 0xA target
  | jumpOffset target => addressWord 0xB target
  | random x mask => registerWord 0xC x mask.toNat
  | draw x y height => pairWord 0xD x y height.val
  | skipIfPressed x => registerWord 0xE x 0x9E
  | skipUnlessPressed x => registerWord 0xE x 0xA1
  | readDelay x => registerWord 0xF x 0x07
  | waitForKey x => registerWord 0xF x 0x0A
  | setDelay x => registerWord 0xF x 0x15
  | setSound x => registerWord 0xF x 0x18
  | addToIndex x => registerWord 0xF x 0x1E
  | indexGlyph x => registerWord 0xF x 0x29
  | storeDecimal x => registerWord 0xF x 0x33
  | storeRegisters x => registerWord 0xF x 0x55
  | loadRegisters x => registerWord 0xF x 0x65

/-- The word that stands for an instruction. Shifts name no second register; it is written as zero. -/
def encode (instruction : Instruction) : UInt16 :=
  UInt16.ofNat instruction.wordNumber

/-- Every instruction's number fits in a word, so `encode` loses nothing. -/
theorem wordNumber_lt (instruction : Instruction) : instruction.wordNumber < 65536 := by
  cases instruction <;> simp only [wordNumber, registerWord, pairWord, addressWord] <;>
    first
      | omega
      | (rename_i x n; have := n.toNat_lt; omega)

/-- The number of the encoded word is the instruction's number. -/
@[simp] theorem toNat_encode (instruction : Instruction) :
    instruction.encode.toNat = instruction.wordNumber := by
  have := instruction.wordNumber_lt
  simp [encode]
  omega

/-- The high byte of the encoded word comes first in memory. -/
def bytes (instruction : Instruction) : List UInt8 :=
  [UInt8.ofNat (instruction.encode.toNat / 256), UInt8.ofNat instruction.encode.toNat]

end Instruction

end Chip8
