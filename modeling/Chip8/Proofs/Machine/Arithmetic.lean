import Chip8.Proofs.Machine.Effects

/-!
# Arithmetic that sets the flag

Five operations change a register and show in the flag what the register cannot: what a sum or a
shift pushed out of it, or that a difference borrowed nothing. `FlagOperation` gives each of them by
the numbers that it computes. An operation reads its operands before it writes anything, and writes
the flag last, so that these numbers are exact whichever of its registers coincide:
`step_flagOperation`. `Machine.flag_arithmetic_exact` spells them out.
-/

namespace Chip8

/-- An operation that changes a register and the flag. Halving and doubling look at that register
only, the others at a second one too. -/
inductive FlagOperation where
  | sum
  | difference
  | reversedDifference
  | half
  | double
  deriving DecidableEq, Repr

namespace FlagOperation

/-- The instruction that carries out an operation. -/
def instruction (x y : Register) : FlagOperation → Instruction
  | sum => .add x y
  | difference => .subtract x y
  | reversedDifference => .subtractFrom x y
  | half => .shiftRight x
  | double => .shiftLeft x

/-- The number that the register receives. -/
def result (a b : Nat) : FlagOperation → Nat
  | sum => (a + b) % 256
  | difference => (a + 256 - b) % 256
  | reversedDifference => (b + 256 - a) % 256
  | half => a / 2
  | double => 2 * a % 256

/-- The number that the flag receives. -/
def carry (a b : Nat) : FlagOperation → Nat
  | sum => (a + b) / 256
  | difference => if b ≤ a then 1 else 0
  | reversedDifference => if a ≤ b then 1 else 0
  | half => a % 2
  | double => 2 * a / 256

/-- How the numbers in the register and the flag hang together with the operands. -/
def Equation (a b result carry : Nat) : FlagOperation → Prop
  | sum => result + 256 * carry = a + b
  | difference => (result : Int) = ((a : Int) - b) % 256
  | reversedDifference => (result : Int) = ((b : Int) - a) % 256
  | half => 2 * result + carry = a
  | double => result + 256 * carry = 2 * a

/-- Nothing is lost between register and flag. -/
theorem equation_result_carry {a b : Nat} (boundA : a < 256) (boundB : b < 256)
    (operation : FlagOperation) :
    operation.Equation a b (operation.result a b) (operation.carry a b) := by
  cases operation with
  | sum => exact Nat.mod_add_div (a + b) 256
  | double => exact Nat.mod_add_div (2 * a) 256
  | half => exact Nat.div_add_mod a 2
  | difference =>
      show (((a + 256 - b) % 256 : Nat) : Int) = ((a : Int) - b) % 256
      omega
  | reversedDifference =>
      show (((b + 256 - a) % 256 : Nat) : Int) = ((b : Int) - a) % 256
      omega

/-- Subtracting what was added restores the number and borrows exactly if the sum carried. -/
theorem difference_of_sum {a b : Nat} (boundA : a < 256) (boundB : b < 256) :
    difference.result (sum.result a b) b = a ∧
      difference.carry (sum.result a b) b + sum.carry a b = 1 := by
  constructor
  · show ((a + b) % 256 + 256 - b) % 256 = a
    omega
  · show (if b ≤ (a + b) % 256 then 1 else 0) + (a + b) / 256 = 1
    split <;> omega

end FlagOperation

namespace Machine

variable {machine later : Machine} {x y : Register}

theorem toNat_flagOf (condition : Prop) [Decidable condition] :
    (flagOf (decide condition)).toNat = if condition then 1 else 0 := by
  by_cases holds : condition <;> simp [flagOf, holds]

/-- An operation writes its result, and the flag behind it. -/
theorem effect_flagOperation (machine : Machine) (operation : FlagOperation) (x y : Register) :
    ∃ value condition,
      machine.effect (operation.instruction x y) = machine.setWithFlag x value condition ∧
      value.toNat = operation.result (machine.reg x).toNat (machine.reg y).toNat ∧
      (flagOf condition).toNat = operation.carry (machine.reg x).toNat (machine.reg y).toNat := by
  have boundX := (machine.reg x).toNat_lt
  have boundY := (machine.reg y).toNat_lt
  cases operation with
  | sum =>
      refine ⟨_, _, rfl, UInt8.toNat_add _ _, ?_⟩
      rw [toNat_flagOf, FlagOperation.carry]
      split <;> omega
  | difference =>
      refine ⟨_, _, rfl, ?_, ?_⟩
      · rw [UInt8.toNat_sub, FlagOperation.result]
        omega
      · rw [toNat_flagOf]
        simp only [UInt8.le_iff_toNat_le, FlagOperation.carry]
  | reversedDifference =>
      refine ⟨_, _, rfl, ?_, ?_⟩
      · rw [UInt8.toNat_sub, FlagOperation.result]
        omega
      · rw [toNat_flagOf]
        simp only [UInt8.le_iff_toNat_le, FlagOperation.carry]
  | half =>
      refine ⟨_, _, rfl, UInt8.toNat_div _ _, ?_⟩
      rw [toNat_flagOf, FlagOperation.carry]
      split <;> omega
  | double =>
      refine ⟨_, _, rfl, ?_, ?_⟩
      · rw [UInt8.toNat_mul, FlagOperation.result, Nat.mul_comm]
        rfl
      · rw [toNat_flagOf, FlagOperation.carry]
        split <;> omega

/-- What an operation leaves in the registers: the flag is exact, so is the result unless the flag
took its place, and no other register changes. -/
theorem step_flagOperation (operation : FlagOperation) (x y : Register)
    (executed : machine.step.1 = .executed (operation.instruction x y)) :
    (machine.step.2.reg flag).toNat =
        operation.carry (machine.reg x).toNat (machine.reg y).toNat ∧
      (x ≠ flag → (machine.step.2.reg x).toNat =
        operation.result (machine.reg x).toNat (machine.reg y).toNat) ∧
      ∀ z, z ≠ x → z ≠ flag → machine.step.2.reg z = machine.reg z := by
  obtain ⟨value, condition, course, result, carry⟩ :=
    machine.advance.effect_flagOperation operation x y
  have registers (z : Register) : machine.step.2.reg z =
      if flag = z then flagOf condition else if x = z then value else machine.reg z := by
    rw [(course_of_executed executed).2.2.2, perform, course]
    exact reg_setWithFlag machine.advance x z value condition
  refine ⟨?_, fun apart => ?_, fun z apart apartFlag => ?_⟩
  · rw [registers, if_pos rfl]
    exact carry
  · rw [registers, if_neg apart.symm, if_pos rfl]
    exact result
  · rw [registers, if_neg apartFlag.symm, if_neg apart.symm]

/-- Adding a constant changes a register, modulo 256, and no other; not even the flag. -/
theorem step_addConstant {n : UInt8} (executed : machine.step.1 = .executed (.addConstant x n)) :
    (machine.step.2.reg x).toNat = ((machine.reg x).toNat + n.toNat) % 256 ∧
      ∀ z, z ≠ x → machine.step.2.reg z = machine.reg z := by
  have registers (z : Register) : machine.step.2.reg z =
      if x = z then machine.reg x + n else machine.reg z := by
    rw [(course_of_executed executed).2.2.2]
    exact reg_setReg machine.advance x z _
  refine ⟨?_, fun z apart => ?_⟩
  · rw [registers, if_pos rfl]
    exact UInt8.toNat_add _ _
  · rw [registers, if_neg apart.symm]

/-- Subtracting what was added restores a register, and borrows exactly if the addition carried. -/
theorem step_subtract_of_added (apart : x ≠ y) (apartX : x ≠ flag) (apartY : y ≠ flag)
    (added : machine.step.1 = .executed (.add x y)) (sameX : later.reg x = machine.step.2.reg x)
    (sameY : later.reg y = machine.step.2.reg y)
    (subtracted : later.step.1 = .executed (.subtract x y)) :
    later.step.2.reg x = machine.reg x ∧
      (later.step.2.reg flag).toNat + (machine.step.2.reg flag).toNat = 1 := by
  obtain ⟨carry, result, others⟩ := step_flagOperation .sum x y added
  obtain ⟨carry', result', -⟩ := step_flagOperation .difference x y subtracted
  rw [sameX, sameY, result apartX, others y apart.symm apartY] at carry' result'
  obtain ⟨restored, flags⟩ :=
    FlagOperation.difference_of_sum (machine.reg x).toNat_lt (machine.reg y).toNat_lt
  constructor
  · exact UInt8.toNat_inj.mp ((result' apartX).trans restored)
  · rw [carry, carry', flags]

/-- Arithmetic with a flag is exact, whichever registers coincide. A sum or a doubled number is the
register and 256 times the flag, a halved number twice the register and the flag; a difference is
taken modulo 256, and the flag tells that nothing was borrowed. If the register is the flag it
shows just the flag. No other register changes, and adding a constant does not change the flag
either. Subtracting a register that was added before restores the sum's first operand, however much
has happened to the rest of the machine in between, and leaves the opposite flag. -/
theorem flag_arithmetic_exact (machine : Machine) (x y : Register) :
    let a := (machine.reg x).toNat
    let b := (machine.reg y).toNat
    let later := machine.step.2
    let result := (later.reg x).toNat
    let carry := (later.reg flag).toNat
    (machine.step.1 = .executed (.add x y) →
      carry = (a + b) / 256 ∧ (x ≠ flag → result + 256 * carry = a + b)) ∧
    (machine.step.1 = .executed (.subtract x y) →
      carry = (if b ≤ a then 1 else 0) ∧ (x ≠ flag → (result : Int) = ((a : Int) - b) % 256)) ∧
    (machine.step.1 = .executed (.subtractFrom x y) →
      carry = (if a ≤ b then 1 else 0) ∧ (x ≠ flag → (result : Int) = ((b : Int) - a) % 256)) ∧
    (machine.step.1 = .executed (.shiftRight x) →
      carry = a % 2 ∧ (x ≠ flag → 2 * result + carry = a)) ∧
    (machine.step.1 = .executed (.shiftLeft x) →
      carry = 2 * a / 256 ∧ (x ≠ flag → result + 256 * carry = 2 * a)) ∧
    (∀ operation : FlagOperation, machine.step.1 = .executed (operation.instruction x y) →
      ∀ z, z ≠ x → z ≠ flag → later.reg z = machine.reg z) ∧
    (∀ n, machine.step.1 = .executed (.addConstant x n) →
      result = (a + n.toNat) % 256 ∧ ∀ z, z ≠ x → later.reg z = machine.reg z) ∧
    (x ≠ y → x ≠ flag → y ≠ flag → machine.step.1 = .executed (.add x y) →
      ∀ last : Machine, last.reg x = later.reg x → last.reg y = later.reg y →
        last.step.1 = .executed (.subtract x y) →
          last.step.2.reg x = machine.reg x ∧ (last.step.2.reg flag).toNat + carry = 1) := by
  have numbers (operation : FlagOperation)
      (executed : machine.step.1 = .executed (operation.instruction x y)) :
      (machine.step.2.reg flag).toNat =
          operation.carry (machine.reg x).toNat (machine.reg y).toNat ∧
        (x ≠ flag → operation.Equation (machine.reg x).toNat (machine.reg y).toNat
          (machine.step.2.reg x).toNat (machine.step.2.reg flag).toNat) := by
    obtain ⟨carry, result, -⟩ := step_flagOperation operation x y executed
    refine ⟨carry, fun apart => ?_⟩
    rw [result apart, carry]
    exact operation.equation_result_carry (machine.reg x).toNat_lt (machine.reg y).toNat_lt
  exact ⟨numbers .sum, numbers .difference, numbers .reversedDifference, numbers .half,
    numbers .double, fun operation executed => (step_flagOperation operation x y executed).2.2,
    fun n => step_addConstant,
    fun apart apartX apartY added last => step_subtract_of_added apart apartX apartY added⟩

/-- Load two registers, add the second to the first and subtract it again. -/
def thereAndBack : List UInt8 := [0x60, 0xFF, 0x61, 0x02, 0x80, 0x14, 0x80, 0x15]

/-- The sum of 255 and 2 is shown as 1 with a carry; subtracting 2 again gives back 255 and
borrows. -/
theorem flag_arithmetic_exact_carry :
    let machine := (boot thereAndBack 0).afterAll [.step, .step]
    let added := machine.step.2
    machine.step.1 = .executed (.add 0 1) ∧ added.step.1 = .executed (.subtract 0 1) ∧
      (added.reg 0).toNat = 1 ∧ (added.reg flag).toNat = 1 ∧
      added.step.2.reg 0 = machine.reg 0 ∧ (added.step.2.reg flag).toNat = 0 := by
  intro machine added
  have loads : (boot thereAndBack 0).step = (.executed (.setConstant 0 0xFF), _) :=
    step_of_fetch rfl (fetch_of_image rfl (by decide) (by decide)) (Memory.rangeFault?_zero _)
  have loads' : ((boot thereAndBack 0).perform (.setConstant 0 0xFF)).step =
      (.executed (.setConstant 1 0x02), _) :=
    step_of_fetch rfl (fetch_of_image rfl (by decide) (by decide)) (Memory.rangeFault?_zero _)
  have reached : (boot thereAndBack 0).afterAll [.step, .step] =
      ((boot thereAndBack 0).perform (.setConstant 0 0xFF)).perform (.setConstant 1 0x02) := by
    rw [afterAll, after_step, loads, afterAll, after_step, loads', afterAll]
  replace reached : machine = _ := reached
  clear_value machine
  have adds : machine.step = (.executed (.add 0 1), machine.perform (.add 0 1)) := by
    rw [reached]
    exact step_of_fetch rfl (fetch_of_image rfl (by decide) (by decide)) (Memory.rangeFault?_zero _)
  have subtracts : added.step = (.executed (.subtract 0 1), added.perform (.subtract 0 1)) := by
    have performed : added = machine.perform (.add 0 1) := congrArg Prod.snd adds
    rw [performed, reached]
    exact step_of_fetch rfl (fetch_of_image rfl (by decide) (by decide)) (Memory.rangeFault?_zero _)
  have first : (machine.reg 0).toNat = 255 ∧ (machine.reg 1).toNat = 2 := by
    rw [reached]
    decide
  obtain ⟨sum, -, -, -, -, -, -, back⟩ := flag_arithmetic_exact machine 0 1
  obtain ⟨carry, value⟩ := sum (congrArg Prod.fst adds)
  obtain ⟨restored, flags⟩ := back (by decide) (by decide) (by decide) (congrArg Prod.fst adds)
    added rfl rfl (congrArg Prod.fst subtracts)
  rw [first.1, first.2] at carry value
  have total := value (by decide)
  refine ⟨congrArg Prod.fst adds, congrArg Prod.fst subtracts, ?_, carry, restored, ?_⟩
  · rw [carry] at total
    exact Nat.add_right_cancel total
  · rw [carry] at flags
    exact Nat.add_right_cancel flags

end Machine

end Chip8
