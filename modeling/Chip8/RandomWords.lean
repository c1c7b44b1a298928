/-!
# Random words

The random numbers of a run are the output words of the ChaCha20 block function, in order, under a
key expanded from the seed. `RandomWords.word` is the whole sequence of a seed as a function of the
position, so a generator is no more than its seed and the number of words already taken.
-/

namespace Chip8

/-- A sequence of words and the number of words already taken from it. -/
structure RandomWords where
  seed : UInt64
  taken : Nat
  deriving DecidableEq, Repr

namespace RandomWords

/-- The word with its bits moved to the left, those that leave it coming back on the right. -/
def rotateLeft (word : UInt32) (amount : UInt32) : UInt32 :=
  (word <<< amount) ||| (word >>> (32 - amount))

/-- One step of the congruential sequence that expands a seed. -/
def expandStep (state : UInt64) : UInt64 :=
  state * 6364136223846793005 + 11634580027462260723

/-- The key word of a state of the congruential sequence: some high bits, mixed and rotated right
by the five highest. -/
def expandOutput (state : UInt64) : UInt32 :=
  let mixed := (((state >>> 18) ^^^ state) >>> 27).toUInt32
  let amount := (state >>> 59).toUInt32
  rotateLeft mixed ((32 - amount) % 32)

/-- The next `count` key words behind a state of the congruential sequence. -/
def expand (state : UInt64) : Nat → List UInt32
  | 0 => []
  | count + 1 => expandOutput (expandStep state) :: expand (expandStep state) count

/-- The eight key words of a seed. -/
def key (seed : UInt64) : List UInt32 := expand seed 8

/-- The sixteen words on which the block function works. -/
abbrev Block := Vector UInt32 16

/-- Four additions, each followed by an exclusive or and a rotation, on four words of a block. -/
def quarterRound (a b c d : Fin 16) (block : Block) : Block :=
  let block := block.set a.val (block[a.val] + block[b.val])
  let block := block.set d.val (rotateLeft (block[d.val] ^^^ block[a.val]) 16)
  let block := block.set c.val (block[c.val] + block[d.val])
  let block := block.set b.val (rotateLeft (block[b.val] ^^^ block[c.val]) 12)
  let block := block.set a.val (block[a.val] + block[b.val])
  let block := block.set d.val (rotateLeft (block[d.val] ^^^ block[a.val]) 8)
  let block := block.set c.val (block[c.val] + block[d.val])
  block.set b.val (rotateLeft (block[b.val] ^^^ block[c.val]) 7)

/-- Quarter rounds down the four columns, then along the four diagonals. -/
def doubleRound (block : Block) : Block :=
  let columns :=
    quarterRound 3 7 11 15 <| quarterRound 2 6 10 14 <|
      quarterRound 1 5 9 13 <| quarterRound 0 4 8 12 block
  quarterRound 3 4 9 14 <| quarterRound 2 7 8 13 <|
    quarterRound 1 6 11 12 <| quarterRound 0 5 10 15 columns

/-- The words before the rounds: four constants, the key, the block number in two words, and two
zeros. -/
def initialBlock (seed : UInt64) (number : UInt64) : Block :=
  let constants : List UInt32 := [0x61707865, 0x3320646e, 0x79622d32, 0x6b206574]
  let words := constants ++ key seed ++ [number.toUInt32, (number >>> 32).toUInt32, 0, 0]
  Vector.ofFn fun place => words.getD place.val 0

/-- The block with a number: twenty rounds, then the initial words added. -/
def block (seed : UInt64) (number : UInt64) : Block :=
  let start := initialBlock seed number
  let mixed := (List.range 10).foldl (fun block _ => doubleRound block) start
  Vector.ofFn fun place => mixed[place.val] + start[place.val]

/-- The word at a position of the sequence of a seed. -/
def word (seed : UInt64) (position : Nat) : UInt32 :=
  (block seed (UInt64.ofNat (position / 16))).get ⟨position % 16, Nat.mod_lt _ (by decide)⟩

/-- The sequence of a seed, nothing taken yet. -/
def ofSeed (seed : UInt64) : RandomWords := ⟨seed, 0⟩

/-- The word that is next. -/
def head (words : RandomWords) : UInt32 :=
  word words.seed words.taken

/-- The sequence behind its next word. -/
def tail (words : RandomWords) : RandomWords :=
  { words with taken := words.taken + 1 }

/-- The next `count` words, without taking them. -/
def peek (words : RandomWords) : Nat → List UInt32
  | 0 => []
  | count + 1 => words.head :: words.tail.peek count

end RandomWords

end Chip8
