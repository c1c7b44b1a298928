import Chip8.Text.Hex

/-!
# Keys

The sixteen keys of the hexadecimal pad, the digits printed on them, where they lie on the pad,
and the characters of an ordinary keyboard that lie in the same places.
-/

namespace Chip8

/-- One of the sixteen keys. -/
structure Key where
  code : Fin 16
  deriving DecidableEq, Repr

namespace Key

/-- The key with a code, if there is one. -/
def ofCode? (code : Nat) : Option Key :=
  if bound : code < 16 then some ⟨code, bound⟩ else none

/-- Every key, in the order of their codes. -/
def all : List Key := (List.finRange 16).map Key.mk

/-- The code as a byte. -/
def byte (key : Key) : UInt8 := UInt8.ofNat key.code.val

/-- The upper-case hexadecimal digit printed on a key. -/
def label (key : Key) : Char :=
  if key.code.val < 10 then Char.ofNat ('0'.toNat + key.code.val)
  else Char.ofNat ('A'.toNat + (key.code.val - 10))

/-- The digit with the word that says what it is. -/
def description (key : Key) : String :=
  "Key(" ++ String.singleton key.label ++ ")"

/-- The pad, row by row. -/
def pad : List (List Key) :=
  [[0x1, 0x2, 0x3, 0xC],
   [0x4, 0x5, 0x6, 0xD],
   [0x7, 0x8, 0x9, 0xE],
   [0xA, 0x0, 0xB, 0xF]].map fun codes => codes.filterMap ofCode?

/-- The keyboard characters that lie where the keys of `pad` lie. -/
def keyboard : List (List Char) :=
  [['1', '2', '3', '4'],
   ['q', 'w', 'e', 'r'],
   ['a', 's', 'd', 'f'],
   ['z', 'x', 'c', 'v']]

/-- Each key with its keyboard character. -/
def bindings : List (Key × Char) :=
  pad.flatten.zip keyboard.flatten

/-- The key bound to a keyboard character; capital letters count as small ones. -/
def ofKeyboard? (character : Char) : Option Key :=
  (bindings.find? fun binding => binding.2 == character.toLower).map (·.1)

/-- The keyboard character bound to a key. -/
def keyboardCharacter (key : Key) : Char :=
  ((bindings.find? fun binding => binding.1 == key).map (·.2)).getD '?'

/-- The binding of a key leads back to the key. -/
theorem ofKeyboard?_keyboardCharacter (key : Key) :
    ofKeyboard? key.keyboardCharacter = some key := by
  have checked : ∀ code : Fin 16,
      ofKeyboard? (keyboardCharacter ⟨code⟩) = some ⟨code⟩ := by decide
  exact checked key.code

@[simp] theorem mem_all (key : Key) : key ∈ all := by
  simp [all, List.mem_map]

end Key

/-- A set of keys. -/
structure KeySet where
  members : Vector Bool 16
  deriving DecidableEq

namespace KeySet

/-- No key. -/
def empty : KeySet := ⟨Vector.replicate 16 false⟩

/-- Whether a key belongs to the set. -/
def contains (keys : KeySet) (key : Key) : Bool :=
  keys.members[key.code.val]

/-- Add a key. -/
def insert (keys : KeySet) (key : Key) : KeySet :=
  ⟨keys.members.set key.code.val true⟩

/-- Remove a key. -/
def erase (keys : KeySet) (key : Key) : KeySet :=
  ⟨keys.members.set key.code.val false⟩

/-- The keys of the set, in the order of their codes. -/
def toList (keys : KeySet) : List Key :=
  Key.all.filter keys.contains

/-- Key sets are determined by their members. -/
@[ext]
theorem ext_contains {left right : KeySet}
    (members : ∀ key, left.contains key = right.contains key) : left = right := by
  cases left with | mk left => cases right with | mk right =>
  congr 1
  exact Vector.ext fun code bound => members ⟨⟨code, bound⟩⟩

@[simp] theorem contains_empty (key : Key) : empty.contains key = false := by
  simp [empty, contains]

@[simp] theorem contains_insert (keys : KeySet) (key other : Key) :
    (keys.insert key).contains other = (key == other || keys.contains other) := by
  cases key with | mk key => cases other with | mk other =>
  by_cases same : key = other <;> simp [insert, contains, Vector.getElem_set] <;>
    simp_all [Fin.ext_iff]

@[simp] theorem contains_erase (keys : KeySet) (key other : Key) :
    (keys.erase key).contains other = (!(key == other) && keys.contains other) := by
  cases key with | mk key => cases other with | mk other =>
  by_cases same : key = other <;> simp [erase, contains, Vector.getElem_set] <;>
    simp_all [Fin.ext_iff]

@[simp] theorem mem_toList {keys : KeySet} {key : Key} :
    key ∈ keys.toList ↔ keys.contains key = true := by
  simp [toList]

end KeySet

end Chip8
