import Chip8.Proofs.Machine.Effects

/-!
# Where memory instructions point

The index is a 16-bit word, so that adding to it wraps. `Machine.unboundedIndex` counts without
bounds what the executed instructions have made of it. The index is what remains of that number
modulo 65536, and a memory instruction is executed exactly if the bytes it touches from there on
lie in memory: `Machine.touches_only_memory`. A program that adds often enough comes back into
memory from above (`Machine.climb_comes_back`), so that a number which leads out of memory is
rejected only as long as it is a word.
-/

namespace Chip8.Machine

/-- What an executed instruction makes of the index if nothing is lost: it sets the index to an
address or to a glyph, or adds a register to it. -/
def countIndex (total : Nat) : Machine × Instruction → Nat
  | (_, .setIndex target) => target.val
  | (machine, .indexGlyph x) => (machine.reg x).toNat % 16 * glyphSize
  | (machine, .addToIndex x) => total + (machine.reg x).toNat
  | _ => total

/-- The value to which the index was last set, or zero, and everything that was added to it since. -/
def unboundedIndex (executed : List (Machine × Instruction)) : Nat :=
  executed.foldl countIndex 0

variable {machine : Machine} {instruction : Instruction}

/-- An instruction that reaches memory through the index meets no obstacle but the end of memory. -/
theorem obstacle?_of_touches (touches : 0 < instruction.touched) :
    machine.obstacle? instruction =
      Memory.rangeFault? machine.index.toNat instruction.touched := by
  cases instruction <;> first | rfl | exact absurd touches (Nat.lt_irrefl 0)

/-! ## The index and the unbounded count -/

/-- An executed instruction does to the index, as a word, what it does to the unbounded count. -/
theorem toNat_index_perform {total : Nat} (same : machine.index.toNat = total % 65536)
    (instruction : Instruction) :
    (machine.perform instruction).index.toNat =
      countIndex total (machine, instruction) % 65536 := by
  rw [perform, index_effect]
  cases instruction
  case setIndex target => simp [countIndex]
  case addToIndex x =>
    show (machine.index + (machine.reg x).toUInt16).toNat = _
    rw [UInt16.toNat_add, same]
    simp [countIndex]
  case indexGlyph x =>
    show (UInt16.ofNat ((machine.reg x).toNat % 16 * glyphSize)).toNat = _
    simp [countIndex]
  all_goals exact same

/-- Nothing that happens to a machine makes the index differ from the unbounded count, but that it
is a word. -/
theorem toNat_index_after {total : Nat} (same : machine.index.toNat = total % 65536)
    (event : Event) :
    (machine.after event).index.toNat =
      ((machine.executed? event).map (machine, ·)).toList.foldl countIndex total % 65536 := by
  cases event with
  | tick | release | acknowledge => exact same
  | press key =>
      have kept : (machine.press key).index = machine.index := by
        simp only [press]
        split <;> rfl
      rw [after, kept]
      exact same
  | step =>
      rw [after_step]
      rcases machine.step_cases with
        ⟨_, course⟩ | ⟨_, _, course⟩ | ⟨instruction, _, _, _, course⟩ <;>
          simp only [executed?, course]
      · exact same
      · exact same
      · exact toNat_index_perform same instruction

theorem toNat_index_afterAll {total : Nat} (same : machine.index.toNat = total % 65536)
    (events : List Event) :
    (machine.afterAll events).index.toNat =
      (machine.executions events).foldl countIndex total % 65536 := by
  induction events generalizing machine total with
  | nil => exact same
  | cons event rest ih =>
      rw [afterAll, executions_cons, List.foldl_append]
      exact ih (toNat_index_after same event)

/-- In every run the index is what the executed instructions have made of it, modulo 65536. -/
theorem toNat_index_eq (image : List UInt8) (seed : UInt64) (events : List Event) :
    ((boot image seed).afterAll events).index.toNat =
      unboundedIndex ((boot image seed).executions events) % 65536 :=
  toNat_index_afterAll rfl events

/-- An instruction that reaches memory through the index is executed if all it touches lies in
memory, and is refused otherwise. -/
theorem step_of_touches (ready : machine.keypad.awaiting = none)
    (fetched : machine.fetch = .ok instruction) (touches : 0 < instruction.touched) :
    machine.step =
      if machine.index.toNat + instruction.touched ≤ memorySize then
        (.executed instruction, machine.perform instruction)
      else (.faulted (.memoryOutOfBounds (max machine.index.toNat memorySize)), machine) := by
  have obstacle : machine.obstacle? instruction = _ := obstacle?_of_touches touches
  split
  · rename_i inside
    exact step_of_fetch ready fetched
      (obstacle.trans (Memory.rangeFault?_eq_none_iff.mpr (.inr inside)))
  · rename_i outside
    have refused : machine.obstacle? instruction =
        some (.memoryOutOfBounds (max machine.index.toNat memorySize)) := by
      rw [obstacle, Memory.rangeFault?, if_neg (by omega)]
    simp [step, ready, fetched, refused]

/-! ## A program that comes back into memory from above -/

/-- Point at the last byte of memory, move 255 bytes on 241 times, and load a register from
there. -/
def climb : List UInt8 :=
  [0x60, 0xFF, 0xAF, 0xFF] ++ (List.replicate 241 [0xF0, 0x1E]).flatten ++ [0xF0, 0x65]

/-- The machine that runs `climb`, when it has moved the index on some times. -/
structure Climbing (machine : Machine) (moves : Nat) : Prop where
  memory : machine.memory = .ofImage climb
  ready : machine.keypad.awaiting = none
  counter : machine.counter.toNat = 516 + 2 * moves
  stride : machine.reg offset = 255

/-- The bytes of a word that is repeated. -/
theorem getD_flatten_replicate (high low : UInt8) {place count : Nat} (inside : place < count) :
    (List.replicate count [high, low]).flatten.getD (2 * place) 0 = high ∧
      (List.replicate count [high, low]).flatten.getD (2 * place + 1) 0 = low := by
  induction count generalizing place with
  | zero => exact absurd inside (Nat.not_lt_zero place)
  | succ count ih =>
      cases place with
      | zero => exact ⟨rfl, rfl⟩
      | succ place => exact ih (Nat.lt_of_succ_lt_succ inside)

/-- Behind its first two words, the program consists of additions to the index. -/
theorem initialCell_climb {place : Nat} (inside : place < 482) :
    Memory.initialCell climb.toArray (516 + place) =
      (List.replicate 241 [(0xF0 : UInt8), 0x1E]).flatten.getD place 0 := by
  have offsetEq : 516 + place = programStart + (4 + place) := by simp [programStart]; omega
  have additions : (List.replicate 241 [(0xF0 : UInt8), 0x1E]).flatten.length = 482 := by
    decide +kernel
  rw [offsetEq, Memory.initialCell_image, climb]
  generalize (List.replicate 241 [(0xF0 : UInt8), 0x1E]).flatten = words at *
  have within : place < words.length := additions ▸ inside
  simp [Nat.add_comm 4 place, List.getElem?_append_left, within]

theorem Climbing.fetch {moves : Nat} (climbing : machine.Climbing moves) (more : moves < 241) :
    machine.fetch = .ok (.addToIndex offset) := by
  obtain ⟨high, low⟩ := getD_flatten_replicate 0xF0 0x1E more
  refine fetch_of_image climbing.memory ?_ ?_
  · rw [climbing.counter, memorySize]
    omega
  · rw [climbing.counter, Nat.add_assoc, initialCell_climb (by omega),
      initialCell_climb (by omega), high, low]
    decide

/-- One more addition is executed. -/
theorem Climbing.step {moves : Nat} (climbing : machine.Climbing moves) (more : moves < 241) :
    machine.step = (.executed (.addToIndex offset), machine.perform (.addToIndex offset)) ∧
      (machine.perform (.addToIndex offset)).Climbing (moves + 1) := by
  refine ⟨step_of_fetch climbing.ready (climbing.fetch more) (Memory.rangeFault?_zero _), ?_⟩
  constructor
  case memory => exact climbing.memory
  case ready => exact climbing.ready
  case stride => exact climbing.stride
  case counter =>
    show (machine.counter + 2).toNat = _
    rw [UInt16.toNat_add, climbing.counter]
    simp
    omega

/-- Behind the first two words the index stands at the last byte of memory. -/
theorem climbing_start :
    ((boot climb 0).afterAll (List.replicate 2 .step)).Climbing 0 ∧
      unboundedIndex ((boot climb 0).executions (List.replicate 2 .step)) = 4095 := by
  have first : (boot climb 0).step = (.executed (.setConstant offset 255), _) :=
    step_of_fetch rfl (fetch_of_image rfl (by decide) (by decide +kernel))
      (Memory.rangeFault?_zero _)
  have second : ((boot climb 0).perform (.setConstant offset 255)).step =
      (.executed (.setIndex ⟨4095, by decide⟩), _) :=
    step_of_fetch rfl (fetch_of_image rfl (by decide) (by decide +kernel))
      (Memory.rangeFault?_zero _)
  obtain ⟨executed, moved⟩ := executions_of_step first
  obtain ⟨executed', moved'⟩ := executions_of_step second
  rw [List.replicate_succ', afterAll_append, executions_append, List.replicate_one, executed, moved,
    executed', moved']
  exact ⟨⟨rfl, rfl, rfl, rfl⟩, rfl⟩

/-- The program moves on by its stride with every step. -/
theorem climbing_steps {moves : Nat} (more : moves ≤ 241) :
    ((boot climb 0).afterAll (List.replicate (2 + moves) .step)).Climbing moves ∧
      unboundedIndex ((boot climb 0).executions (List.replicate (2 + moves) .step)) =
        4095 + 255 * moves := by
  induction moves with
  | zero => exact climbing_start
  | succ moves ih =>
      obtain ⟨climbing, total⟩ := ih (Nat.le_of_succ_le more)
      obtain ⟨course, next⟩ := climbing.step more
      obtain ⟨executed, moved⟩ := executions_of_step course
      rw [← Nat.add_assoc, List.replicate_succ', afterAll_append, executions_append, moved,
        executed]
      refine ⟨next, ?_⟩
      rw [unboundedIndex, List.foldl_append, ← unboundedIndex, total]
      show 4095 + 255 * moves + (reg _ offset).toNat = _
      rw [climbing.stride]
      simp
      omega

/-- Memory instructions touch only memory. Whatever happens to a machine from the start on, the
index is what the executed instructions have made of it modulo 65536. An instruction that reaches
memory through the index is executed exactly if all it touches lies in memory, counted from that
number; otherwise the step faults and leaves the machine as it was. As long as what they have made
of the index is a word, it is the number itself that has to lead into memory. -/
theorem touches_only_memory (image : List UInt8) (seed : UInt64) (events : List Event) :
    let machine := (boot image seed).afterAll events
    let total := unboundedIndex ((boot image seed).executions events)
    machine.index.toNat = total % 65536 ∧
      ∀ instruction, machine.keypad.awaiting = none → machine.fetch = .ok instruction →
        0 < instruction.touched →
        (machine.step = (.executed instruction, machine.perform instruction) ↔
          total % 65536 + instruction.touched ≤ memorySize) ∧
        (memorySize < total % 65536 + instruction.touched →
          machine.step =
            (.faulted (.memoryOutOfBounds (max (total % 65536) memorySize)), machine)) ∧
        (total < 65536 → memorySize < total + instruction.touched →
          machine.step = (.faulted (.memoryOutOfBounds (max total memorySize)), machine)) := by
  intro machine total
  have index : machine.index.toNat = total % 65536 := toNat_index_eq image seed events
  refine ⟨index, fun instruction ready fetched touches => ?_⟩
  have course : machine.step = _ := step_of_touches ready fetched touches
  rw [index] at course
  have refused : memorySize < total % 65536 + instruction.touched →
      machine.step = (.faulted (.memoryOutOfBounds (max (total % 65536) memorySize)), machine) :=
    fun outside => course.trans (if_neg (Nat.not_le.mpr outside))
  refine ⟨⟨fun executed => Nat.not_lt.mp fun outside => ?_,
    fun inside => course.trans (if_pos inside)⟩, refused, ?_⟩
  · cases executed.symm.trans (refused outside)
  · intro word outside
    rw [Nat.mod_eq_of_lt word] at refused
    exact refused outside

/-- Point at the last byte of memory and store three digits there. -/
def brink : List UInt8 := [0xAF, 0xFF, 0xF0, 0x33]

/-- Three digits do not fit where there is one byte left. -/
theorem touches_only_memory_digits :
    let machine := (boot brink 0).afterAll [.step]
    machine.keypad.awaiting = none ∧ machine.fetch = .ok (.storeDecimal offset) ∧
      0 < (Instruction.storeDecimal offset).touched ∧
      machine.step = (.faulted (.memoryOutOfBounds 4096), machine) := by
  have course : (boot brink 0).step = (.executed (.setIndex ⟨4095, by decide⟩), _) :=
    step_of_fetch rfl (fetch_of_image rfl (by decide) (by decide)) (Memory.rangeFault?_zero _)
  obtain ⟨executed, moved⟩ := executions_of_step course
  have ready : ((boot brink 0).afterAll [.step]).keypad.awaiting = none := by
    rw [moved]
    rfl
  have fetched : ((boot brink 0).afterAll [.step]).fetch = .ok (.storeDecimal offset) := by
    rw [moved]
    exact fetch_of_image rfl (by decide) (by decide)
  have total : unboundedIndex ((boot brink 0).executions [.step]) = 4095 := by
    rw [executed]
    rfl
  obtain ⟨-, onlyMemory⟩ := touches_only_memory brink 0 [.step]
  obtain ⟨-, -, refused⟩ := onlyMemory _ ready fetched (by decide)
  rw [total] at refused
  exact ⟨ready, fetched, by decide, refused (by decide) (by decide)⟩

/-- A program that adds to the index often enough comes back into memory from above: it loads a
register although what it has made of the index leads far out of memory. -/
theorem climb_comes_back :
    let events := List.replicate 243 Event.step
    let machine := (boot climb 0).afterAll events
    let total := unboundedIndex ((boot climb 0).executions events)
    machine.step = (.executed (.loadRegisters offset), machine.perform (.loadRegisters offset)) ∧
      total = 65550 ∧ memorySize < total + (Instruction.loadRegisters offset).touched := by
  obtain ⟨climbing, total⟩ := climbing_steps (Nat.le_refl 241)
  have fetched : ((boot climb 0).afterAll (List.replicate 243 .step)).fetch =
      .ok (.loadRegisters offset) := by
    refine fetch_of_image climbing.memory ?_ ?_
    · rw [climbing.counter]
      decide
    · rw [climbing.counter]
      decide +kernel
  refine ⟨?_, total, ?_⟩
  · rw [step_of_touches climbing.ready fetched (by decide), toNat_index_eq, total]
    rfl
  · rw [total]
    decide

end Chip8.Machine
