import Chip8.Proofs.Machine.Waiting
import Mathlib.Data.List.DropRight
import Mathlib.Data.List.FinRange
import Mathlib.Data.List.Induction

/-!
# Keys over whole runs

What a machine knows about keys lies in three places: the keys that are held, the latch that waits
for a press, and the keys that the program has asked for by name. Here each of them is read off
everything that has happened. A key is held if the last event about it was a press; the latch waits
on behalf of the last instruction that was executed to wait since the last press; and a key was
asked for if some instruction that tests a key found its code in a register.
`Machine.keys_tell_history` puts this together.
-/

namespace Chip8

/-- Keys with rising codes, so that none of them comes twice. -/
def InCodeOrder (keys : List Key) : Prop :=
  keys.Pairwise fun left right => left.code.val < right.code.val

/-- The register in which an instruction finds the code of a key that it asks for, if it does. -/
def Instruction.asksFor? : Instruction → Option Register
  | .skipIfPressed x | .skipUnlessPressed x => some x
  | _ => none

namespace Machine

/-- Whether an event presses or releases a key. -/
def Event.concerns (key : Key) : Event → Bool
  | .press other | .release other => other == key
  | _ => false

/-- The last event about a key, if there is one. -/
def lastAbout (key : Key) (events : List Event) : Option Event :=
  (events.filter (·.concerns key)).getLast?

/-- What has happened since the last press. -/
def sincePress (entries : List (Machine × Event)) : List (Machine × Event) :=
  entries.rtakeWhile fun entry => !entry.2.isPress

/-- The registers on behalf of which executed instructions waited for a key, in order. -/
def waits (entries : List (Machine × Event)) : List Register :=
  entries.filterMap fun (before, event) => (before.executed? event).bind Instruction.waitsFor?

/-- The codes that executed instructions asked for, in order. -/
def codesAsked (executed : List (Machine × Instruction)) : List UInt8 :=
  executed.filterMap fun (before, instruction) => instruction.asksFor?.map before.reg

variable {machine : Machine} {instruction : Instruction} {key : Key}

/-! ## Held keys -/

theorem inCodeOrder_all : InCodeOrder Key.all := by
  rw [InCodeOrder, Key.all, List.pairwise_map]
  exact List.pairwise_lt_finRange 16

theorem inCodeOrder_toList (keys : KeySet) : InCodeOrder keys.toList :=
  inCodeOrder_all.filter _

theorem lastAbout_concat (key : Key) (events : List Event) (event : Event) :
    lastAbout key (events ++ [event]) =
      if event.concerns key then some event else lastAbout key events := by
  rw [lastAbout, List.filter_append]
  cases concerned : event.concerns key <;> simp [lastAbout, concerned]

@[simp] theorem keypad_press (machine : Machine) (key : Key) :
    (machine.press key).keypad = machine.keypad.press key := by
  simp only [press]
  split <;> rfl

/-- No instruction presses or releases a key. -/
theorem held_perform (machine : Machine) (instruction : Instruction) :
    (machine.perform instruction).keypad.held = machine.keypad.held := by
  rw [perform, keypad_effect]
  cases instruction <;> rfl

/-- An event about a key decides whether it is held, and no other event does. -/
theorem isHeld_after (machine : Machine) (event : Event) (key : Key) :
    (machine.after event).keypad.isHeld key =
      if event.concerns key then decide (event = .press key) else machine.keypad.isHeld key := by
  cases event with
  | step =>
      rw [after_step]
      rcases machine.step_cases with
        ⟨_, course⟩ | ⟨_, _, course⟩ | ⟨instruction, _, _, _, course⟩ <;> rw [course]
      · rfl
      · rfl
      · rw [Keypad.isHeld, held_perform]
        rfl
  | tick | acknowledge => rfl
  | press other =>
      by_cases same : other = key <;>
        simp [after, Keypad.press, Keypad.isHeld, Event.concerns, same]
  | release other =>
      by_cases same : other = key <;>
        simp [after, release, Keypad.release, Keypad.isHeld, Event.concerns, same]

/-- A key is held if the last event about it was a press, or if it was held from the start and no
event was about it. -/
theorem isHeld_afterAll (machine : Machine) (events : List Event) (key : Key) :
    (machine.afterAll events).keypad.isHeld key =
      ((lastAbout key events).map fun last => decide (last = .press key)).getD
        (machine.keypad.isHeld key) := by
  -- from the end, because it is the last event that counts
  induction events using List.reverseRecOn with
  | nil => rfl
  | append_singleton earlier event ih =>
      rw [afterAll_append, lastAbout_concat]
      show ((machine.afterAll earlier).after event).keypad.isHeld key = _
      rw [isHeld_after, ih]
      split <;> rfl

/-! ## The latch -/

theorem sincePress_concat (entries : List (Machine × Event)) (entry : Machine × Event) :
    sincePress (entries ++ [entry]) =
      if entry.2.isPress then [] else sincePress entries ++ [entry] := by
  rw [sincePress, List.rtakeWhile_concat]
  cases pressed : entry.2.isPress <;> simp [sincePress]

theorem waits_concat (entries : List (Machine × Event)) (before : Machine) (event : Event) :
    waits (entries ++ [(before, event)]) =
      waits entries ++ ((before.executed? event).bind Instruction.waitsFor?).toList := by
  rw [waits, List.filterMap_append]
  cases waiting : (before.executed? event).bind Instruction.waitsFor? <;> simp [waits, waiting]

/-- The latch waits on behalf of the last instruction that was executed to wait since the last
press. -/
theorem awaiting_afterAll_eq (ready : machine.keypad.awaiting = none) (events : List Event) :
    (machine.afterAll events).keypad.awaiting =
      (waits (sincePress (machine.chronicle events))).getLast? := by
  induction events using List.reverseRecOn with
  | nil => exact ready
  | append_singleton earlier event ih =>
      have last : machine.chronicle (earlier ++ [event]) =
          machine.chronicle earlier ++ [(machine.afterAll earlier, event)] :=
        chronicle_append machine earlier [event]
      rw [afterAll_append, last, sincePress_concat]
      show ((machine.afterAll earlier).after event).keypad.awaiting = _
      rw [awaiting_after, ih]
      split
      · rfl
      · rw [waits_concat, List.getLast?_append]
        cases ((machine.afterAll earlier).executed? event).bind Instruction.waitsFor? <;> rfl

/-! ## Keys that were asked for -/

/-- The key with a code is the one whose byte is the code. -/
theorem ofCode?_eq_some_iff {code : UInt8} : Key.ofCode? code.toNat = some key ↔ code = key.byte := by
  have bound := key.code.isLt
  have byte : key.byte.toNat = key.code.val := by
    simp [Key.byte]
    omega
  rw [← UInt8.toNat_inj, byte, Key.ofCode?]
  constructor
  · intro found
    split at found
    · cases found
      rfl
    · cases found
  · intro same
    rw [dif_pos (same ▸ bound)]
    exact congrArg some (congrArg Key.mk (Fin.ext same))

/-- An instruction that asks for a key notes it, if there is a key with the code. -/
theorem contains_tested_perform :
    (machine.perform instruction).tested.contains key = true ↔
      instruction.asksFor?.map machine.reg = some key.byte ∨ machine.tested.contains key = true := by
  have noted (code : UInt8) : (machine.advance.noteTest code).tested.contains key = true ↔
      code = key.byte ∨ machine.tested.contains key = true := by
    rw [noteTest_eq, ← ofCode?_eq_some_iff]
    show (((Key.ofCode? code.toNat).map machine.tested.insert).getD
      machine.tested).contains key = true ↔ _
    cases Key.ofCode? code.toNat <;> simp
  rw [perform, tested_effect]
  cases instruction with
  | skipIfPressed x | skipUnlessPressed x =>
      show (machine.advance.noteTest (machine.reg x)).tested.contains key = true ↔ _
      rw [noted]
      simp [Instruction.asksFor?]
  | _ => simp [Instruction.asksFor?, advance, goto]

theorem codesAsked_cons (before : Machine) (instruction : Instruction)
    (executed : List (Machine × Instruction)) :
    codesAsked ((before, instruction) :: executed) =
      (instruction.asksFor?.map before.reg).toList ++ codesAsked executed := by
  rw [codesAsked, List.filterMap_cons]
  cases asked : instruction.asksFor?.map before.reg <;> simp [codesAsked, asked]

/-- A key was asked for if some executed instruction asked for its code. -/
theorem contains_tested_afterAll (machine : Machine) (events : List Event) (key : Key) :
    (machine.afterAll events).tested.contains key = true ↔
      machine.tested.contains key = true ∨
        key.byte ∈ codesAsked (machine.executions events) := by
  induction events generalizing machine with
  | nil => simp [afterAll, executions, chronicle, codesAsked]
  | cons event rest ih =>
      rw [afterAll, ih, executions_cons]
      cases executed : machine.executed? event with
      | some instruction =>
          obtain ⟨rfl, course⟩ := step_of_executed? executed
          rw [after_step, course, contains_tested_perform]
          show _ ↔ _ ∨ key.byte ∈ codesAsked ((machine, instruction) :: _)
          rw [codesAsked_cons, List.mem_append, Option.mem_toList, or_comm (a := _ = _), or_assoc]
          rfl
      | none =>
          have same : (machine.after event).tested = machine.tested := by
            cases event with
            | step => rw [after_step, step_of_executed?_none executed]
            | press other =>
                simp only [after, press]
                split <;> rfl
            | tick | release | acknowledge => rfl
          rw [same]
          rfl

/-- No key has a code above fifteen: it is not held, and nothing is noted. -/
theorem perform_of_no_key {x : Register} (high : 15 < (machine.reg x).toNat) :
    machine.perform (.skipIfPressed x) = machine.advance ∧
      machine.perform (.skipUnlessPressed x) = machine.advance.advance := by
  have noKey : Key.ofCode? (machine.reg x).toNat = none := dif_neg (by omega)
  have unnoted : machine.advance.noteTest (machine.reg x) = machine.advance := by
    simp [noteTest, noKey]
  have notHeld : machine.advance.holds (machine.reg x) = false := by
    simp [holds, noKey]
  constructor
  · show (machine.advance.noteTest (machine.reg x)).skipIf
      (machine.advance.holds (machine.reg x)) = _
    rw [unnoted, notHeld]
    rfl
  · show (machine.advance.noteTest (machine.reg x)).skipIf
      (!machine.advance.holds (machine.reg x)) = _
    rw [unnoted, notHeld]
    rfl

/-! ## Repetitions -/

theorem press_press (machine : Machine) (key : Key) :
    (machine.press key).press key = machine.press key := by
  rw [press_of_ready (awaiting_press machine key), keypad_press]
  show { machine.press key with keypad := (machine.keypad.press key).press key } = _
  rw [Keypad.press_press, ← keypad_press]

theorem release_release (machine : Machine) (key : Key) :
    (machine.release key).release key = machine.release key := by
  show { machine with keypad := (machine.keypad.release key).release key } = _
  rw [Keypad.release_release]
  rfl

/-- Keys over whole runs. Whatever happens to a machine from its start on, the keys held are those
of which the last event was a press, in the order of their codes. The latch waits on behalf of the
last instruction that was executed to wait since the last press, if there was one. The keys that
matter are, in the order of their codes, all of them while the latch waits, and otherwise those
whose code some executed instruction found in the register it asked for. A code without a key
counts as not held and is not noted: an instruction that asks for it does no more than to skip or
not to skip. To press or to release a key twice in a row is to do it once. -/
theorem keys_tell_history (image : List UInt8) (seed : UInt64) (events : List Event) :
    let machine := (boot image seed).afterAll events
    let asked := codesAsked ((boot image seed).executions events)
    (InCodeOrder machine.keypad.held.toList ∧
      ∀ key, key ∈ machine.keypad.held.toList ↔ lastAbout key events = some (.press key)) ∧
    machine.keypad.awaiting = (waits (sincePress ((boot image seed).chronicle events))).getLast? ∧
    (InCodeOrder machine.requiredKeys ∧
      ∀ key, key ∈ machine.requiredKeys ↔
        machine.keypad.awaiting.isSome ∨ key.byte ∈ asked) ∧
    (∀ x, 15 < (machine.reg x).toNat →
      (machine.step.1 = .executed (.skipIfPressed x) → machine.step.2 = machine.advance) ∧
      (machine.step.1 = .executed (.skipUnlessPressed x) →
        machine.step.2 = machine.advance.advance)) ∧
    ∀ key, (machine.press key).press key = machine.press key ∧
      (machine.release key).release key = machine.release key := by
  intro machine asked
  refine ⟨⟨inCodeOrder_toList _, ?held⟩, awaiting_afterAll_eq rfl events, ⟨?order, ?required⟩,
    ?noKey, fun key => ⟨press_press machine key, release_release machine key⟩⟩
  case held =>
    intro key
    rw [KeySet.mem_toList]
    show machine.keypad.isHeld key = true ↔ _
    rw [isHeld_afterAll]
    show ((lastAbout key events).map _).getD (KeySet.empty.contains key) = true ↔ _
    rw [KeySet.contains_empty]
    cases lastAbout key events <;> simp
  case order =>
    rw [requiredKeys]
    split
    · exact inCodeOrder_all
    · exact inCodeOrder_toList _
  case required =>
    intro key
    have noted := contains_tested_afterAll (boot image seed) events key
    rw [requiredKeys]
    split
    · rename_i waiting
      simp [waiting]
    · rename_i ready
      rw [KeySet.mem_toList, noted]
      simp [ready, boot, asked]
  case noKey =>
    intro x high
    constructor <;> intro executed <;>
      rw [(step_of_executed? (executed?_step_iff.mpr executed)).2]
    · exact (perform_of_no_key high).1
    · exact (perform_of_no_key high).2

/-- A program that asks for the key with code 26, of which there is none: it goes on with the next
instruction, and no key matters to it. -/
theorem keys_tell_history_no_key :
    let machine := (boot [0x60, 0x1A, 0xE0, 0x9E] 0).afterAll [.step]
    15 < (machine.reg 0).toNat ∧ machine.step.1 = .executed (.skipIfPressed 0) ∧
      machine.step.2 = machine.advance ∧ ∀ key, key ∉ machine.requiredKeys := by
  intro machine
  have loads : (boot [0x60, 0x1A, 0xE0, 0x9E] 0).step = (.executed (.setConstant 0 0x1A), _) :=
    step_of_fetch rfl (fetch_of_image rfl (by decide) (by decide)) (Memory.rangeFault?_zero _)
  have asks : ((boot [0x60, 0x1A, 0xE0, 0x9E] 0).perform (.setConstant 0 0x1A)).step =
      (.executed (.skipIfPressed 0), _) :=
    step_of_fetch rfl (fetch_of_image rfl (by decide) (by decide)) (Memory.rangeFault?_zero _)
  obtain ⟨executions, reached⟩ := executions_of_step loads
  have loaded : machine = _ := reached
  have high : 15 < (machine.reg 0).toNat := by
    rw [loaded]
    decide
  have executed : machine.step.1 = .executed (.skipIfPressed 0) := by
    rw [loaded, asks]
  obtain ⟨-, -, ⟨-, required⟩, noKey, -⟩ :=
    keys_tell_history [0x60, 0x1A, 0xE0, 0x9E] 0 [.step]
  refine ⟨high, executed, (noKey 0 high).1 executed, fun key matters => ?_⟩
  rcases (required key).mp matters with waiting | asked
  · rw [reached] at waiting
    cases waiting
  · rw [executions] at asked
    cases asked

end Machine

end Chip8
