import Chip8.Proofs.Metronome.Pace
import Chip8.Proofs.Player.Transitions
import Chip8.Timeline.History

/-!
# The steps of a pacer

What a beat, a wake-up and a command do to a pacer. Which beat comes next, and when, does not
depend on the time at which a pacer is looked at: the next deadline is that of the upcoming beat
(`Pacer.upcoming?`), and a beat is performed exactly when the upcoming one is due.
-/

namespace Chip8

/-- What a beat does to a player. -/
def Beat.event : Beat → Player.Event
  | .cycle => .cycle
  | .tick => .tick

/-- The beat that an event is, if it is one. -/
def Player.Event.beat? : Event → Option Beat
  | .command _ => none
  | .cycle => some .cycle
  | .tick => some .tick

@[simp] theorem Beat.beat?_event (beat : Beat) : beat.event.beat? = some beat := by
  cases beat <;> rfl

namespace Pacer

/-- The metronome that gives a beat. -/
def metronomeOf (pacer : Pacer) : Beat → Metronome
  | .cycle => pacer.cycles
  | .tick => pacer.ticks

/-- The beat with the earliest deadline, the timer tick if both are equal, if the player is
running. -/
def upcoming? (pacer : Pacer) : Option (Beat × Nat) :=
  match pacer.player.state with
  | .running =>
      match pacer.cycles.deadline?, pacer.ticks.deadline? with
      | some cycle, some tick => if tick ≤ cycle then some (.tick, tick) else some (.cycle, cycle)
      | some cycle, none => some (.cycle, cycle)
      | none, some tick => some (.tick, tick)
      | none, none => none
  | _ => none

/-- A pacer is its player and its two metronomes. -/
theorem eq_of_metronomeOf {first second : Pacer} (player : first.player = second.player)
    (metronomes : ∀ beat, first.metronomeOf beat = second.metronomeOf beat) : first = second := by
  obtain ⟨_, _, _⟩ := first
  obtain ⟨_, _, _⟩ := second
  cases player
  cases metronomes .cycle
  cases metronomes .tick
  rfl

theorem deadlineOf?_eq (pacer : Pacer) (beat : Beat) :
    pacer.deadlineOf? beat = (pacer.metronomeOf beat).deadline? := by
  cases beat <;> rfl

/-- The next deadline is that of the upcoming beat. -/
theorem deadline?_eq (pacer : Pacer) : pacer.deadline? = pacer.upcoming?.map (·.2) := by
  cases stateEq : pacer.player.state <;> simp only [deadline?, upcoming?, stateEq, Option.map_none]
  cases pacer.cycles.deadline? <;> cases pacer.ticks.deadline? <;> try rfl
  dsimp only
  split <;> simp only [Option.map_some, Option.some.injEq] <;> omega

/-- The beat that is performed is the upcoming one, if it is due. -/
theorem nextBeat?_eq (pacer : Pacer) (now : Nat) :
    pacer.nextBeat? now = (pacer.upcoming?.filter (·.2 ≤ now)).map (·.1) := by
  cases stateEq : pacer.player.state <;>
    simp only [nextBeat?, upcoming?, stateEq, Option.filter_none, Option.map_none]
  cases cyclesEq : pacer.cycles.deadline? <;> cases ticksEq : pacer.ticks.deadline? <;>
    grind [Metronome.due?]

theorem nextBeat?_eq_some_iff {pacer : Pacer} {now : Nat} {beat : Beat} :
    pacer.nextBeat? now = some beat ↔
      ∃ deadline, pacer.upcoming? = some (beat, deadline) ∧ deadline ≤ now := by
  simp [nextBeat?_eq, Option.filter_eq_some_iff, and_comm]

theorem nextBeat?_eq_none_iff {pacer : Pacer} {now : Nat} :
    pacer.nextBeat? now = none ↔
      ∀ deadline, pacer.deadline? = some deadline → now < deadline := by
  simp only [nextBeat?_eq, deadline?_eq, Option.map_eq_none_iff, Option.filter_eq_none_iff,
    decide_eq_true_eq, Nat.not_le, Option.map_eq_some_iff]
  constructor
  · rintro notDue deadline ⟨upcoming, found, rfl⟩
    exact notDue upcoming found
  · intro notDue upcoming found
    exact notDue upcoming.2 ⟨upcoming, found, rfl⟩

/-- The upcoming beat is one of a running player, no deadline is earlier, and a cycle does not
come before a tick on a tie. -/
theorem of_upcoming? {pacer : Pacer} {beat : Beat} {deadline : Nat}
    (upcoming : pacer.upcoming? = some (beat, deadline)) :
    pacer.player.state = .running ∧ (pacer.metronomeOf beat).deadline? = some deadline ∧
      ∀ other later, (pacer.metronomeOf other).deadline? = some later →
        deadline ≤ later ∧ (beat = .cycle → other = .tick → deadline < later) := by
  cases stateEq : pacer.player.state <;> simp only [upcoming?, stateEq, reduceCtorEq] at upcoming
  refine ⟨rfl, ?_⟩
  cases cyclesEq : pacer.cycles.deadline? <;> cases ticksEq : pacer.ticks.deadline? <;>
    rw [cyclesEq, ticksEq] at upcoming
  case none.none => cases upcoming
  case none.some tick =>
    cases upcoming
    refine ⟨ticksEq, ?_⟩
    rintro (_ | _) later laterEq <;> grind [metronomeOf]
  case some.none cycle =>
    cases upcoming
    refine ⟨cyclesEq, ?_⟩
    rintro (_ | _) later laterEq <;> grind [metronomeOf]
  case some.some cycle tick =>
    dsimp only at upcoming
    split at upcoming <;> cases upcoming
    · refine ⟨ticksEq, ?_⟩
      rintro (_ | _) later laterEq <;> grind [metronomeOf]
    · refine ⟨cyclesEq, ?_⟩
      rintro (_ | _) later laterEq <;> grind [metronomeOf]

/-- No metronome of a running player has a deadline before the next one. -/
theorem exists_deadline?_le {pacer : Pacer} {beat : Beat} {deadline : Nat}
    (running : pacer.player.state = .running)
    (ticking : (pacer.metronomeOf beat).deadline? = some deadline) :
    ∃ earliest, pacer.deadline? = some earliest ∧ earliest ≤ deadline := by
  simp only [deadline?, running]
  cases beat <;> simp only [metronomeOf] at ticking <;> rw [ticking]
  · cases pacer.ticks.deadline? with
    | none => exact ⟨deadline, rfl, Nat.le_refl _⟩
    | some tick => exact ⟨min deadline tick, rfl, Nat.min_le_left _ _⟩
  · cases pacer.cycles.deadline? with
    | none => exact ⟨deadline, rfl, Nat.le_refl _⟩
    | some cycle => exact ⟨min cycle deadline, rfl, Nat.min_le_right _ _⟩

/-! ## Performing and draining -/

variable {pacer : Pacer} {now : Nat} {beat : Beat}

@[simp] theorem player_perform (pacer : Pacer) (now : Nat) (beat : Beat) :
    (pacer.perform now beat).player = pacer.player.after beat.event := by
  cases beat <;> rfl

/-- A beat moves its own metronome and leaves the other one alone. -/
theorem metronomeOf_perform (pacer : Pacer) (now : Nat) (beat other : Beat) :
    (pacer.perform now beat).metronomeOf other =
      if other = beat then (pacer.metronomeOf other).consume now
      else pacer.metronomeOf other := by
  cases beat <;> cases other <;> rfl

@[simp] theorem period_perform (pacer : Pacer) (now : Nat) (beat other : Beat) :
    ((pacer.perform now beat).metronomeOf other).period = (pacer.metronomeOf other).period := by
  rw [metronomeOf_perform]
  split <;> simp

@[simp] theorem period_drain (pacer : Pacer) (now : Nat) (beat : Beat) :
    ((pacer.drain now).metronomeOf beat).period = (pacer.metronomeOf beat).period := by
  fun_induction drain pacer now with
  | case1 pacer none => rfl
  | case2 pacer other next ih => rw [ih, period_perform]

theorem drain_of_nextBeat? (next : pacer.nextBeat? now = some beat) :
    pacer.drain now = (pacer.perform now beat).drain now := by
  rw [drain]
  split
  · simp_all
  · rename_i other otherNext
    cases next.symm.trans otherNext
    rfl

theorem beats_of_nextBeat? {deadline : Nat} (upcoming : pacer.upcoming? = some (beat, deadline))
    (due : deadline ≤ now) :
    pacer.beats now = (beat, deadline) :: (pacer.perform now beat).beats now := by
  have next : pacer.nextBeat? now = some beat := nextBeat?_eq_some_iff.mpr ⟨_, upcoming, due⟩
  rw [beats]
  split
  · simp_all
  · rename_i other otherNext
    cases next.symm.trans otherNext
    rw [deadlineOf?_eq, (of_upcoming? upcoming).2.1, Option.getD_some]

theorem beats_of_none (noBeat : pacer.nextBeat? now = none) : pacer.beats now = [] := by
  rw [beats]
  split
  · rfl
  · simp_all

theorem player_foldl_perform (pacer : Pacer) (now : Nat) (beats : List (Beat × Nat)) :
    (beats.foldl (fun current beat => current.perform now beat.1) pacer).player =
      pacer.player.afterAll (beats.map (·.1.event)) := by
  induction beats generalizing pacer with
  | nil => rfl
  | cons beat rest ih =>
      rw [List.foldl_cons, ih, player_perform]
      rfl

/-- What draining does to the player is what the listed beats do to it, in their order. -/
theorem player_drain (pacer : Pacer) (now : Nat) :
    (pacer.drain now).player = pacer.player.afterAll ((pacer.beats now).map (·.1.event)) := by
  rw [drain_eq_foldl_beats, player_foldl_perform]

@[simp] theorem player_followChange (pacer : Pacer) (before : RunState) (now : Nat) :
    (pacer.followChange before now).player = pacer.player := by
  simp only [followChange]
  split <;> rfl

/-- Both metronomes follow a change of the run state in the same way. -/
theorem metronomeOf_followChange (pacer : Pacer) (before : RunState) (now : Nat) (beat : Beat) :
    (pacer.followChange before now).metronomeOf beat =
      (pacer.metronomeOf beat).follow before pacer.player.state now := by
  cases before <;> cases stateEq : pacer.player.state <;> cases beat <;>
    simp only [followChange, stateEq] <;> rfl

@[simp] theorem player_catchUp (pacer : Pacer) (now : Nat) :
    (pacer.catchUp now).player = pacer.player.afterAll ((pacer.beats now).map (·.1.event)) := by
  simp only [catchUp, player_followChange, player_drain]

@[simp] theorem period_catchUp (pacer : Pacer) (now : Nat) (beat : Beat) :
    ((pacer.catchUp now).metronomeOf beat).period = (pacer.metronomeOf beat).period := by
  rw [catchUp, metronomeOf_followChange, Metronome.period_follow, period_drain]

/-- A player that is not running is not woken. -/
theorem catchUp_of_not_running (resting : pacer.player.state ≠ .running) :
    pacer.catchUp now = pacer := by
  simp only [catchUp, drain_of_not_running resting]
  simp only [followChange]
  split <;> simp_all

/-- A run that goes on keeps its metronomes as draining leaves them. -/
theorem catchUp_of_running (running : pacer.player.state = .running)
    (goesOn : (pacer.drain now).player.state = .running) :
    pacer.catchUp now = pacer.drain now := by
  simp only [catchUp, running, followChange, goesOn]

theorem nextBeat?_of_not_running (resting : pacer.player.state ≠ .running) :
    pacer.nextBeat? now = none := by
  cases stateEq : pacer.player.state <;> simp_all [nextBeat?]

/-! ## Commands -/

@[simp] theorem player_handle (pacer : Pacer) (command : Command) (now : Nat) :
    (pacer.handle command now).2.player = (pacer.player.handle command).2 := by
  simp only [handle]
  split <;> simp

@[simp] theorem reply_handle (pacer : Pacer) (command : Command) (now : Nat) :
    (pacer.handle command now).1 = (pacer.player.handle command).1 := by
  simp only [handle]
  split <;> rfl

@[simp] theorem period_handle (pacer : Pacer) (command : Command) (now : Nat) (beat : Beat) :
    ((pacer.handle command now).2.metronomeOf beat).period = (pacer.metronomeOf beat).period := by
  simp only [handle]
  split
  · cases beat <;> rfl
  · rw [metronomeOf_followChange, Metronome.period_follow]
    cases beat <;> rfl

/-- A command after which there is a run moves the metronomes by what it does to the run state. -/
theorem metronomeOf_handle {command : Command}
    (goesOn : (pacer.player.handle command).2.state ≠ .idle) :
    (pacer.handle command now).2.metronomeOf beat =
      (pacer.metronomeOf beat).follow pacer.player.state (pacer.player.handle command).2.state
        now := by
  simp only [handle]
  split
  · rename_i goodbye
    exact absurd (Player.state_of_goodbye goodbye) goesOn
  · rw [metronomeOf_followChange]
    cases beat <;> rfl

end Pacer

end Chip8
