import Chip8.Text.Hex

/-!
# Digests

The SHA-256 digest of a byte string. The message is padded to whole blocks, and each block is
compressed into a state of eight words by sixty-four rounds; a window of sixteen words yields the
word of each round and grows by one word as it loses one.
-/

namespace Chip8

/-- Eight words: the state of the compression, and its outcome. -/
structure Digest where
  a : UInt32
  b : UInt32
  c : UInt32
  d : UInt32
  e : UInt32
  f : UInt32
  g : UInt32
  h : UInt32
  deriving DecidableEq, Repr

namespace Digest

/-- The state before the first block. -/
def start : Digest :=
  ⟨0x6a09e667, 0xbb67ae85, 0x3c6ef372, 0xa54ff53a,
   0x510e527f, 0x9b05688c, 0x1f83d9ab, 0x5be0cd19⟩

/-- The constants of the sixty-four rounds. -/
def roundConstants : List UInt32 := [
  0x428a2f98, 0x71374491, 0xb5c0fbcf, 0xe9b5dba5, 0x3956c25b, 0x59f111f1, 0x923f82a4, 0xab1c5ed5,
  0xd807aa98, 0x12835b01, 0x243185be, 0x550c7dc3, 0x72be5d74, 0x80deb1fe, 0x9bdc06a7, 0xc19bf174,
  0xe49b69c1, 0xefbe4786, 0x0fc19dc6, 0x240ca1cc, 0x2de92c6f, 0x4a7484aa, 0x5cb0a9dc, 0x76f988da,
  0x983e5152, 0xa831c66d, 0xb00327c8, 0xbf597fc7, 0xc6e00bf3, 0xd5a79147, 0x06ca6351, 0x14292967,
  0x27b70a85, 0x2e1b2138, 0x4d2c6dfc, 0x53380d13, 0x650a7354, 0x766a0abb, 0x81c2c92e, 0x92722c85,
  0xa2bfe8a1, 0xa81a664b, 0xc24b8b70, 0xc76c51a3, 0xd192e819, 0xd6990624, 0xf40e3585, 0x106aa070,
  0x19a4c116, 0x1e376c08, 0x2748774c, 0x34b0bcb5, 0x391c0cb3, 0x4ed8aa4a, 0x5b9cca4f, 0x682e6ff3,
  0x748f82ee, 0x78a5636f, 0x84c87814, 0x8cc70208, 0x90befffa, 0xa4506ceb, 0xbef9a3f7, 0xc67178f2]

/-- The word with its bits moved to the right, those that leave it coming back on the left. -/
def rotateRight (word amount : UInt32) : UInt32 :=
  (word >>> amount) ||| (word <<< (32 - amount))

/-- The digits of a number in base 256, most significant first, in a fixed number of bytes. -/
def bigEndian (value : Nat) : Nat → List UInt8
  | 0 => []
  | width + 1 => UInt8.ofNat (value / Nat.pow 256 width) :: bigEndian value width

/-- A message with a one bit, zeros up to eight bytes before the end of a block, and its length in
bits. -/
def padded (message : List UInt8) : List UInt8 :=
  let length := message.length
  let zeros := (64 - (length + 9) % 64) % 64
  message ++ 0x80 :: List.replicate zeros 0 ++ bigEndian (8 * length) 8

/-- Four bytes to a word, most significant first. -/
def words : List UInt8 → List UInt32
  | first :: second :: third :: fourth :: rest =>
      ((first.toUInt32 <<< 24) ||| (second.toUInt32 <<< 16) ||| (third.toUInt32 <<< 8) |||
        fourth.toUInt32) :: words rest
  | _ => []

/-- The word that joins the window: it depends on the first, second, tenth and fifteenth. -/
def nextWord (window : List UInt32) : UInt32 :=
  let second := window.getD 1 0
  let fifteenth := window.getD 14 0
  let small := rotateRight second 7 ^^^ rotateRight second 18 ^^^ (second >>> 3)
  let large := rotateRight fifteenth 17 ^^^ rotateRight fifteenth 19 ^^^ (fifteenth >>> 10)
  window.getD 0 0 + small + window.getD 9 0 + large

/-- One round with the sum of its constant and its word. -/
def round (state : Digest) (input : UInt32) : Digest :=
  let mixE := rotateRight state.e 6 ^^^ rotateRight state.e 11 ^^^ rotateRight state.e 25
  let choice := (state.e &&& state.f) ^^^ ((~~~state.e) &&& state.g)
  let sum := state.h + mixE + choice + input
  let mixA := rotateRight state.a 2 ^^^ rotateRight state.a 13 ^^^ rotateRight state.a 22
  let majority := (state.a &&& state.b) ^^^ (state.a &&& state.c) ^^^ (state.b &&& state.c)
  ⟨sum + mixA + majority, state.a, state.b, state.c, state.d + sum, state.e, state.f, state.g⟩

/-- One round for each of the given constants. -/
def rounds (window : List UInt32) (state : Digest) : List UInt32 → Digest
  | [] => state
  | constant :: rest =>
      rounds (window.drop 1 ++ [nextWord window]) (round state (constant + window.getD 0 0)) rest

/-- Add two states word by word. -/
def add (left right : Digest) : Digest :=
  ⟨left.a + right.a, left.b + right.b, left.c + right.c, left.d + right.d,
   left.e + right.e, left.f + right.f, left.g + right.g, left.h + right.h⟩

/-- The state behind one block. -/
def compress (state : Digest) (block : List UInt32) : Digest :=
  state.add (rounds block state roundConstants)

/-- The state behind `count` blocks. -/
def compressAll (state : Digest) (message : List UInt32) : Nat → Digest
  | 0 => state
  | count + 1 => compressAll (state.compress (message.take 16)) (message.drop 16) count

/-- The digest of a byte string. -/
def ofBytes (message : List UInt8) : Digest :=
  let words := words (padded message)
  compressAll start words (words.length / 16)

/-- Sixty-four lower-case hexadecimal digits. -/
def text (digest : Digest) : String :=
  String.join <|
    [digest.a, digest.b, digest.c, digest.d, digest.e, digest.f, digest.g, digest.h].map
      fun word => Text.hex 8 word.toNat

/-- The digits with the words that say what they are. -/
def description (digest : Digest) : String :=
  "ContentDigest(" ++ digest.text ++ ")"

end Digest

end Chip8
