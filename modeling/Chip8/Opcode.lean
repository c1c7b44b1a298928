import Chip8.Instruction
import Chip8.Text.Hex

/-!
# Opcodes

An opcode is a sixteen-bit word read as four hexadecimal digits. `Opcode.decode` finds the
instruction it stands for; `Opcode.decode_encode` says that it undoes `Instruction.encode`.
-/

namespace Chip8

/-- A word fetched as an instruction. -/
structure Opcode where
  word : UInt16
  deriving DecidableEq, Repr

namespace Opcode

/-- The word whose first byte in memory is `high`. -/
def ofBytes (high low : UInt8) : Opcode :=
  ⟨UInt16.ofNat (high.toNat * 256 + low.toNat)⟩

/-- The first digit, which selects the family of the instruction. -/
def leading (opcode : Opcode) : Nat := opcode.word.toNat / 4096

/-- The second digit as a register. -/
def x (opcode : Opcode) : Register :=
  ⟨opcode.word.toNat / 256 % 16, Nat.mod_lt _ (by decide)⟩

/-- The third digit as a register. -/
def y (opcode : Opcode) : Register :=
  ⟨opcode.word.toNat / 16 % 16, Nat.mod_lt _ (by decide)⟩

/-- The last digit. -/
def n (opcode : Opcode) : Fin 16 := ⟨opcode.word.toNat % 16, Nat.mod_lt _ (by decide)⟩

/-- The last two digits as a byte. -/
def nn (opcode : Opcode) : UInt8 := UInt8.ofNat (opcode.word.toNat % 256)

/-- The last three digits as an address. -/
def nnn (opcode : Opcode) : Address := ⟨opcode.word.toNat % 4096, Nat.mod_lt _ (by decide)⟩

/-- All four digits, first digit first. -/
def digits (opcode : Opcode) : List Nat :=
  [opcode.leading, opcode.x.val, opcode.y.val, opcode.n.val]

/-- The word with what it is. -/
def description (opcode : Opcode) : String :=
  "Opcode(" ++ Text.hexLiteral 4 opcode.word.toNat ++ ")"

/-- The arithmetic and logic instructions, selected by the last digit. -/
def decodeArithmetic (x y : Register) (last : Nat) : Option Instruction :=
  match last with
  | 0x0 => some (.copy x y)
  | 0x1 => some (.bitOr x y)
  | 0x2 => some (.bitAnd x y)
  | 0x3 => some (.bitXor x y)
  | 0x4 => some (.add x y)
  | 0x5 => some (.subtract x y)
  | 0x6 => some (.shiftRight x)
  | 0x7 => some (.subtractFrom x y)
  | 0xE => some (.shiftLeft x)
  | _ => none

/-- The instructions on timers, keys, the index and memory, selected by the last two digits. -/
def decodeDevice (x : Register) (trailing : Nat) : Option Instruction :=
  match trailing with
  | 0x07 => some (.readDelay x)
  | 0x0A => some (.waitForKey x)
  | 0x15 => some (.setDelay x)
  | 0x18 => some (.setSound x)
  | 0x1E => some (.addToIndex x)
  | 0x29 => some (.indexGlyph x)
  | 0x33 => some (.storeDecimal x)
  | 0x55 => some (.storeRegisters x)
  | 0x65 => some (.loadRegisters x)
  | _ => none

/-- The instruction that a word stands for, if it stands for one. -/
def decode (opcode : Opcode) : Option Instruction :=
  match opcode.leading with
  | 0x0 =>
      if opcode.word.toNat = 0x00E0 then some .clearScreen
      else if opcode.word.toNat = 0x00EE then some .ret
      else none
  | 0x1 => some (.jump opcode.nnn)
  | 0x2 => some (.call opcode.nnn)
  | 0x3 => some (.skipIfConstant opcode.x opcode.nn)
  | 0x4 => some (.skipUnlessConstant opcode.x opcode.nn)
  | 0x5 => if opcode.n.val = 0 then some (.skipIfSame opcode.x opcode.y) else none
  | 0x6 => some (.setConstant opcode.x opcode.nn)
  | 0x7 => some (.addConstant opcode.x opcode.nn)
  | 0x8 => decodeArithmetic opcode.x opcode.y opcode.n.val
  | 0x9 => if opcode.n.val = 0 then some (.skipUnlessSame opcode.x opcode.y) else none
  | 0xA => some (.setIndex opcode.nnn)
  | 0xB => some (.jumpOffset opcode.nnn)
  | 0xC => some (.random opcode.x opcode.nn)
  | 0xD => some (.draw opcode.x opcode.y opcode.n)
  | 0xE =>
      if opcode.nn.toNat = 0x9E then some (.skipIfPressed opcode.x)
      else if opcode.nn.toNat = 0xA1 then some (.skipUnlessPressed opcode.x)
      else none
  | 0xF => decodeDevice opcode.x opcode.nn.toNat
  | _ => none

/-- The fields of a word with one register and a trailing byte. -/
theorem fields_of_registerWord {opcode : Opcode} {leading trailing : Nat} {x : Register}
    (word : opcode.word.toNat = Instruction.registerWord leading x trailing)
    (trailingBound : trailing < 256) :
    opcode.leading = leading ∧ opcode.x = x ∧ opcode.nn = UInt8.ofNat trailing ∧
      opcode.n.val = trailing % 16 := by
  have xBound := x.isLt
  simp only [Instruction.registerWord] at word
  refine ⟨?_, Fin.ext ?_, ?_, ?_⟩
  · simp only [Opcode.leading, word]; omega
  · simp only [Opcode.x, word]; omega
  · simp only [nn, word]
    congr 1
    omega
  · simp only [n, word]; omega

/-- The fields of a word with two registers and a last digit. -/
theorem fields_of_pairWord {opcode : Opcode} {leading last : Nat} {x y : Register}
    (word : opcode.word.toNat = Instruction.pairWord leading x y last)
    (lastBound : last < 16) :
    opcode.leading = leading ∧ opcode.x = x ∧ opcode.y = y ∧ opcode.n.val = last := by
  have xBound := x.isLt
  have yBound := y.isLt
  simp only [Instruction.pairWord] at word
  refine ⟨?_, Fin.ext ?_, Fin.ext ?_, ?_⟩
  · simp only [Opcode.leading, word]; omega
  · simp only [Opcode.x, word]; omega
  · simp only [Opcode.y, word]; omega
  · simp only [n, word]; omega

/-- The fields of a word with an address. -/
theorem fields_of_address {opcode : Opcode} {leading : Nat} {target : Address}
    (word : opcode.word.toNat = Instruction.addressWord leading target) :
    opcode.leading = leading ∧ opcode.nnn = target := by
  have targetBound := target.isLt
  simp only [Instruction.addressWord] at word
  refine ⟨?_, Fin.ext ?_⟩
  · simp only [Opcode.leading, word]; omega
  · simp only [nnn, word]; omega

/-- Decoding undoes encoding, whatever the operands. -/
theorem decode_encode (instruction : Instruction) :
    decode ⟨instruction.encode⟩ = some instruction := by
  have word : (Opcode.mk instruction.encode).word.toNat = instruction.wordNumber :=
    instruction.toNat_encode
  generalize Opcode.mk instruction.encode = opcode at word
  cases instruction <;> simp only [Instruction.wordNumber] at word
  case clearScreen | ret => simp [decode, leading, word]
  case jump target | call target | setIndex target | jumpOffset target =>
    obtain ⟨leadingEq, targetEq⟩ := fields_of_address word
    simp [decode, leadingEq, targetEq]
  case skipIfConstant x n | skipUnlessConstant x n | setConstant x n | addConstant x n |
      random x n =>
    obtain ⟨leadingEq, xEq, nnEq, _⟩ := fields_of_registerWord word n.toNat_lt
    simp [decode, leadingEq, xEq, nnEq]
  case draw x y height =>
    obtain ⟨leadingEq, xEq, yEq, nEq⟩ := fields_of_pairWord word height.isLt
    simp [decode, leadingEq, xEq, yEq, Fin.ext nEq]
  case skipIfPressed x | skipUnlessPressed x | readDelay x | waitForKey x | setDelay x |
      setSound x | addToIndex x | indexGlyph x | storeDecimal x | storeRegisters x |
      loadRegisters x =>
    obtain ⟨leadingEq, xEq, nnEq, _⟩ := fields_of_registerWord word (by decide)
    simp [decode, decodeDevice, leadingEq, xEq, nnEq]
  case shiftRight x | shiftLeft x =>
    obtain ⟨leadingEq, xEq, _, nEq⟩ := fields_of_registerWord word (by decide)
    simp [decode, decodeArithmetic, leadingEq, xEq, nEq]
  all_goals
    obtain ⟨leadingEq, xEq, yEq, nEq⟩ := fields_of_pairWord word (by decide)
    simp [decode, decodeArithmetic, leadingEq, xEq, yEq, nEq]

example : decode ⟨0x8126⟩ = some (.shiftRight 1) := by decide
example : decode ⟨0x812F⟩ = none := by decide

end Opcode

end Chip8
