/-!
# Timers

Two counters that count down to zero and stay there, whatever the machine executes meanwhile.
-/

namespace Chip8

/-- The number of ticks of a second. -/
def timerRate : Nat := 60

/-- The delay and the sound timer. -/
structure Timers where
  delay : UInt8
  sound : UInt8
  deriving DecidableEq, Repr

namespace Timers

/-- Both timers at rest. -/
def stopped : Timers := ⟨0, 0⟩

/-- One less, down to zero. -/
def countDown (value : UInt8) : UInt8 :=
  if value = 0 then 0 else value - 1

/-- One tick counts both timers down. -/
def tick (timers : Timers) : Timers :=
  ⟨countDown timers.delay, countDown timers.sound⟩

/-- Counting down is subtraction that stops at zero. -/
@[simp] theorem toNat_countDown (value : UInt8) : (countDown value).toNat = value.toNat - 1 := by
  by_cases zero : value = 0
  · simp [countDown, zero]
  · have positive : 1 ≤ value.toNat := by
      have : value.toNat ≠ 0 := fun h => zero (UInt8.toNat_inj.mp h)
      omega
    have le : (1 : UInt8) ≤ value := by simpa [UInt8.le_iff_toNat_le] using positive
    rw [countDown, if_neg zero, UInt8.toNat_sub_of_le _ _ le]
    rfl

end Timers

end Chip8
