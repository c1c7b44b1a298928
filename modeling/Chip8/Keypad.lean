import Chip8.Key

/-!
# The keypad

The keys that are held, and a latch that waits for the next press. The latch remembers where the
code of that key has to go; what a place is called is up to the user of the keypad.
-/

namespace Chip8

/-- Held keys, and the place that waits for the next press. -/
structure Keypad (Place : Type) where
  held : KeySet
  awaiting : Option Place
  deriving DecidableEq

namespace Keypad

variable {Place : Type}

/-- No key held and nothing waiting. -/
def idle : Keypad Place := ⟨.empty, none⟩

/-- Whether a key is held. -/
def isHeld (keypad : Keypad Place) (key : Key) : Bool :=
  keypad.held.contains key

/-- Hold a key. A waiting latch is cleared. -/
def press (keypad : Keypad Place) (key : Key) : Keypad Place :=
  ⟨keypad.held.insert key, none⟩

/-- Let a key go. The latch keeps waiting. -/
def release (keypad : Keypad Place) (key : Key) : Keypad Place :=
  { keypad with held := keypad.held.erase key }

/-- Wait for the next press on behalf of a place. -/
def await (keypad : Keypad Place) (place : Place) : Keypad Place :=
  { keypad with awaiting := some place }

/-- Pressing a key twice is pressing it once. -/
@[simp] theorem press_press (keypad : Keypad Place) (key : Key) :
    (keypad.press key).press key = keypad.press key := by
  simp only [press, mk.injEq, and_true]
  ext other
  simp only [KeySet.contains_insert]
  cases key == other <;> rfl

/-- Releasing a key twice is releasing it once. -/
@[simp] theorem release_release (keypad : Keypad Place) (key : Key) :
    (keypad.release key).release key = keypad.release key := by
  simp only [release, mk.injEq, and_true]
  ext other
  simp only [KeySet.contains_erase]
  cases key == other <;> rfl

end Keypad

end Chip8
