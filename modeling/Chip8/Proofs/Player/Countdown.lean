import Chip8.Proofs.Machine.Countdown
import Chip8.Proofs.Player.Course

/-!
# The timers of a run

From its start on, a timer of a run shows what it was set to last, less the ticks since then, where
only those ticks count that find the run running. `Player.timers_count_down` says so until the run
is ended or its machine replaced, and the same of a machine on its own.
-/

namespace Chip8

/-- The timers of a machine show so much, and so much is read from the delay timer. -/
structure Machine.ShowsTimers (machine : Machine) (left : Timer → Nat) : Prop where
  shown : ∀ timer, (machine.timers.get timer).toNat = left timer
  read : ∀ x, machine.executed? .step = some (.readDelay x) →
    (machine.step.2.reg x).toNat = left .delay

/-- Along any events a machine shows what its timers were set to last, less the ticks since. -/
theorem Machine.showsTimers_afterAll (machine : Machine) (events : List Machine.Event) :
    (machine.afterAll events).ShowsTimers fun timer =>
      Timing.left (machine.timers.get timer) (machine.timings timer events) where
  shown timer := machine.toNat_get_afterAll timer events
  read := by
    intro x executed
    rw [(step_of_executed? executed).2, reg_perform_readDelay]
    exact machine.toNat_get_afterAll .delay events

namespace Player

/-- How an event bears on a timer of the run, if it does. -/
def timing? (player : Player) (timer : Timer) (event : Event) : Option Timing :=
  match player.phase, event with
  | .running run, .cycle => run.machine.timing? timer .step
  | .running _, .tick => some .tick
  | _, _ => none

/-- Everything among some events that bears on a timer of the run, in order. -/
def timings (player : Player) (timer : Timer) (events : List Event) : List Timing :=
  (player.chronicle events).filterMap fun entry => entry.1.timing? timer entry.2

/-- The timers of the run of a player show so much, and so much is read from the delay timer. -/
structure ShowsTimers (player : Player) (left : Timer → Nat) : Prop where
  shown : ∃ machine, player.machine? = some machine ∧
    ∀ timer, (machine.timers.get timer).toNat = left timer
  read : ∀ x, player.executed? .cycle = some (.readDelay x) →
    ∃ machine, player.cycle.machine? = some machine ∧ (machine.reg x).toNat = left .delay

variable {player : Player} {timer : Timer} {machine : Machine} {events : List Event}

/-- What bears on a timer of a run is what bears on the timer of its machine. -/
theorem timings_course (live : player.machine? = some machine) (timer : Timer) (event : Event) :
    machine.timings timer (player.course event) = (player.timing? timer event).toList := by
  obtain ⟨settings, phase, channels⟩ := player
  cases phase with
  | idle => cases live
  | halted => cases event <;> rfl
  | paused run =>
      cases event with
      | cycle | tick => rfl
      | command command => cases command <;> rfl
  | running run =>
      cases live
      cases event with
      | tick => rfl
      | command command => cases command <;> rfl
      | cycle =>
          simp only [course, timing?, Machine.timings_cons]
          cases run.machine.executed? .step <;> exact List.append_nil _

theorem timings_courseAll (live : player.machine? = some machine) (timer : Timer)
    (keep : ∀ entry ∈ player.chronicle events, entry.1.KeepsMachine entry.2) :
    machine.timings timer (player.courseAll events) = player.timings timer events := by
  induction events generalizing player machine with
  | nil => rfl
  | cons event rest ih =>
      obtain ⟨first, others⟩ := List.forall_mem_cons.mp keep
      have later := ih (machine?_after live first) others
      rw [courseAll] at later ⊢
      rw [chronicle, List.flatMap_cons, Machine.timings_append, later, timings_course live,
        timings, timings, chronicle, List.filterMap_cons]
      cases player.timing? timer event <;> rfl

/-- A run shows the timers of its machine. -/
theorem ShowsTimers.ofMachine {left : Timer → Nat} (live : player.machine? = some machine)
    (shows : machine.ShowsTimers left) : player.ShowsTimers left where
  shown := ⟨machine, live, shows.shown⟩
  read := by
    intro x executed
    refine ⟨_, machine?_cycle live, ?_⟩
    obtain ⟨settings, phase, channels⟩ := player
    cases phase with
    | idle | paused | halted => cases executed
    | running run =>
        cases live
        have executed : run.machine.executed? .step = some (.readDelay x) := executed
        simp only [course, executed]
        exact shows.read x executed

/-- A run shows what its timers were set to last, less the ticks since that found it running. -/
theorem showsTimers_afterAll (live : player.machine? = some machine)
    (keep : ∀ entry ∈ player.chronicle events, entry.1.KeepsMachine entry.2) :
    (player.afterAll events).ShowsTimers fun timer =>
      Timing.left (machine.timers.get timer) (player.timings timer events) := by
  have shows := machine.showsTimers_afterAll (player.courseAll events)
  simp only [timings_courseAll live _ keep] at shows
  exact .ofMachine (machine?_afterAll live keep) shows

/-- A run starts with a machine that has just been loaded with the program. -/
theorem machine?_of_start {started : Player} {program : Program} {fresh : UInt64}
    (accepted : player.start program fresh = .ok started) :
    started.machine? =
      some (Machine.boot program.image (player.settings.seedFor fresh)).acknowledgeScreen := by
  obtain ⟨settings, phase, channels⟩ := player
  cases phase <;> cases accepted
  rfl

/-- Timers count down. Whatever happens to a machine from its start on, its timers show what they
were set to last, zero if they never were, less the ticks since then, and not less than zero; this
is what an instruction reads from the delay timer. As long as no instruction sets a timer, it
loses one for each tick, whatever else is executed and whether or not a key is awaited. The same
holds of a run from its start on until it is ended or its machine replaced, where the ticks count
only while it is running. -/
theorem timers_count_down :
    (∀ (image : List UInt8) (seed : UInt64) (events : List Machine.Event),
      ((Machine.boot image seed).afterAll events).ShowsTimers fun timer =>
        Timing.left 0 ((Machine.boot image seed).timings timer events)) ∧
    (∀ (machine : Machine) (timer : Timer) (events : List Machine.Event),
      (∀ execution ∈ machine.executions events, execution.2.sets? timer = none) →
        ((machine.afterAll events).timers.get timer).toNat =
          (machine.timers.get timer).toNat - events.count .tick) ∧
    ∀ (player started : Player) (program : Program) (fresh : UInt64) (events : List Event),
      player.start program fresh = .ok started →
        (∀ entry ∈ started.chronicle events, entry.1.KeepsMachine entry.2) →
          (started.afterAll events).ShowsTimers fun timer =>
            Timing.left 0 (started.timings timer events) := by
  refine ⟨fun image seed events => ?_, fun machine timer events notSet => ?_,
    fun player started program fresh events accepted keep => ?_⟩
  · have shows := (Machine.boot image seed).showsTimers_afterAll events
    simpa only [Machine.get_boot] using shows
  · rw [Machine.toNat_get_afterAll, Machine.timings_of_not_set notSet, Timing.left_replicate_tick]
  · have shows := showsTimers_afterAll (machine?_of_start accepted) keep
    have still (machine : Machine) (timer : Timer) :
        machine.acknowledgeScreen.timers.get timer = machine.timers.get timer := rfl
    simpa only [still, Machine.get_boot] using shows

/-- A program that sets the delay timer to five and reads it behind four ticks, two of which find the
run paused. -/
theorem timers_count_down_paused :
    let image : List UInt8 := [0x60, 0x05, 0xF0, 0x15, 0xF1, 0x07]
    let program : Program := ⟨"count", image, .ofBytes image, by simp, by decide, rfl⟩
    let pause : Event := .command .togglePause
    let events : List Event := [.cycle, .cycle, .tick, pause, .tick, .tick, pause, .tick]
    ∃ started, (ofSettings ⟨700, some 0⟩).start program 0 = .ok started ∧
      (∀ entry ∈ started.chronicle events, entry.1.KeepsMachine entry.2) ∧
      started.timings .delay events = [.set 5, .tick, .tick] ∧
      ∃ machine, (started.afterAll events).cycle.machine? = some machine ∧
        (machine.reg 1).toNat = 3 := by
  intro image program pause events
  let fresh := (Machine.boot image 0).acknowledgeScreen
  let loaded := (fresh.perform (.setConstant 0 5)).acknowledgeScreen
  let counting := (loaded.perform (.setDelay 0)).acknowledgeScreen.tick.tick
  have first : fresh.step = (.executed (.setConstant 0 5), fresh.perform (.setConstant 0 5)) :=
    Machine.step_of_fetch rfl (Machine.fetch_of_image rfl (by decide) (by decide)) rfl
  have second : loaded.step = (.executed (.setDelay 0), loaded.perform (.setDelay 0)) :=
    Machine.step_of_fetch rfl (Machine.fetch_of_image rfl (by decide) (by decide)) rfl
  have third : counting.step = (.executed (.readDelay 1), counting.perform (.readDelay 1)) :=
    Machine.step_of_fetch rfl (Machine.fetch_of_image rfl (by decide) (by decide)) rfl
  -- stated of any machines, so that nothing of them is evaluated
  have counts (fresh loaded set : Machine) (channels : Channels)
      (first : fresh.step = (.executed (.setConstant 0 5), loaded))
      (second : loaded.acknowledgeScreen.step = (.executed (.setDelay 0), set))
      (third : set.acknowledgeScreen.tick.tick.step.1 = .executed (.readDelay 1)) :
      let started : Player := ⟨⟨700, some 0⟩, .running ⟨program, fresh⟩, channels⟩
      started.timings .delay events = [.set (loaded.acknowledgeScreen.reg 0), .tick, .tick] ∧
        (started.afterAll events).executed? .cycle = some (.readDelay 1) := by
    constructor
    · simp only [timings, events, chronicle, after, cycle_of_executed first,
        cycle_of_executed second, tick, pause, handle, togglePause, timing?, Machine.timing?,
        Machine.executed?, Instruction.sets?, List.filterMap_cons, List.filterMap_nil, first, second,
        Option.bind_some, Option.map_some, Option.map_none]
    · simp only [events, afterAll, after, cycle_of_executed first, cycle_of_executed second, tick,
        pause, handle, togglePause, executed?, Machine.executed?, third]
  have keep (player : Player) :
      ∀ entry ∈ player.chronicle events, entry.1.KeepsMachine entry.2 := by
    intro entry listed
    have happened := mem_of_mem_chronicle listed
    simp only [events, pause, List.mem_cons, List.not_mem_nil, or_false] at happened
    rcases happened with eq | eq | eq | eq | eq | eq | eq | eq <;> rw [eq] <;> first
      | exact keepsMachine_of_no_command rfl
      | exact keepsMachine_togglePause
  obtain ⟨timings, executed⟩ := counts fresh _ _ (Channels.silent.publishAll fresh .running)
    first second (congrArg Prod.fst third)
  refine ⟨_, rfl, keep _, timings, ?_⟩
  obtain ⟨machine, live, read⟩ :=
    (timers_count_down.2.2 (ofSettings ⟨700, some 0⟩) _ program 0 events rfl (keep _)).read 1 executed
  refine ⟨machine, live, read.trans ?_⟩
  exact congrArg (Timing.left 0) timings

end Player

end Chip8
