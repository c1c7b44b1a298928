import Chip8.Proofs.Player.Alike
import Chip8.Proofs.Player.Course

/-!
# Publications are exact

A cycle or a tick publishes what it has changed of a run, and nothing else: a picture if an
instruction clears the screen or draws on it, the sound timer if it shows another value, what the
program waits for if an instruction deals with keys or a fault halts the run. The note that the
screen may have changed is what this rests on, for it is set in many places; in a reachable run it
is never set between two events (`Mirrors.acknowledged`), so that no picture is published for the
sake of an earlier one.
-/

namespace Chip8

/-- The instruction clears the screen or draws on it. -/
def Instruction.Paints (instruction : Instruction) : Prop :=
  instruction = .clearScreen ∨ ∃ x y height, instruction = .draw x y height

/-- The instruction skips on account of a key or waits for one. -/
def Instruction.AsksForKeys (instruction : Instruction) : Prop :=
  ∃ x, instruction = .skipIfPressed x ∨ instruction = .skipUnlessPressed x ∨
    instruction = .waitForKey x

/-- Those that ask for keys are the instructions that count as dealing with keys. -/
theorem Instruction.consultsKeys_iff {instruction : Instruction} :
    instruction.consultsKeys = true ↔ instruction.AsksForKeys := by
  cases instruction <;> simp [consultsKeys, AsksForKeys]

/-- Where the screen has been taken note of, it counts as changed behind the instructions that
paint. -/
theorem Machine.screenChanged_perform_iff {machine : Machine} {instruction : Instruction}
    (clean : machine.screenChanged = false) :
    (machine.perform instruction).screenChanged = true ↔ instruction.Paints := by
  have ahead : machine.advance.screenChanged = false := clean
  rw [perform, screenChanged_effect]
  cases instruction <;> simp [ahead, Instruction.Paints]

namespace Player

/-- What the sound timer of the run shows, if there is one. -/
def sounding? (player : Player) : Option UInt8 := player.machine?.map (·.timers.sound)

/-- The next cycle of a running run meets a fault and halts it. -/
def HaltsOn (player : Player) (fault : Fault) : Prop :=
  player.state = .running ∧ player.cycle.state = .halted fault

/-- A cycle and a tick publish, once each, exactly what there is to tell of them. -/
structure PublishesExactly (player : Player) : Prop where
  cycle_once : player.cycle.channels = player.channels.tell (player.news .cycle)
  cycle_frame : (player.news .cycle).frame.isSome ↔
    ∃ instruction, player.executed? .cycle = some instruction ∧ instruction.Paints
  cycle_sound : (player.news .cycle).sound.isSome ↔ player.cycle.sounding? ≠ player.sounding?
  cycle_inspection : (player.news .cycle).inspection.isSome ↔
    (∃ instruction, player.executed? .cycle = some instruction ∧ instruction.AsksForKeys) ∨
      ∃ fault, player.HaltsOn fault
  cycle_playing : (player.news .cycle).playing.isSome ↔ ∃ fault, player.HaltsOn fault
  tick_once : player.tick.channels = player.channels.tell (player.news .tick)
  /-- A tick has nothing to tell but the sound timer. -/
  tick_only : player.news .tick = { News.nothing with sound := (player.news .tick).sound }
  tick_sound : (player.news .tick).sound.isSome ↔ player.tick.sounding? ≠ player.sounding?
  resting : player.state ≠ .running →
    player.cycle.channels = player.channels ∧ player.tick.channels = player.channels

/-- An event that makes another machine of the machine of a run tells what it has changed. -/
structure TellsChanges (player : Player) (event : Event) (before after : Machine) : Prop where
  screen : after.screen ≠ before.screen → (player.news event).frame = some after.screen
  sound : after.timers.sound ≠ before.timers.sound →
    (player.news event).sound = some after.timers.sound
  /-- The key that is awaited, the keys that were tested, or the fault. -/
  inspection : after.keypad.awaiting ≠ before.keypad.awaiting ∨ after.tested ≠ before.tested ∨
      (player.after event).state.fault? ≠ player.state.fault? →
    (player.news event).inspection =
      some (.ofMachine after (player.after event).state.fault?)

/-- An event leaves a run its machine, and lets it execute nothing that paints. -/
def KeepsPicture (player : Player) (event : Event) : Prop :=
  player.KeepsMachine event ∧
    ∀ instruction, player.executed? event = some instruction → ¬instruction.Paints

variable {player : Player} {event : Event} {events : List Event} {machine : Machine}

/-! ## The courses of a cycle -/

/-- A cycle that halts the run. -/
structure CycleHalts (player : Player) (machine : Machine) (fault : Fault) : Prop where
  live : player.machine? = some machine
  running : player.state = .running
  executed : player.executed? .cycle = none
  after : player.cycle.machine? = some machine
  halted : player.cycle.state = .halted fault
  news : player.news .cycle = .ofHalt machine fault

/-- A cycle that executes an instruction. -/
structure CycleExecutes (player : Player) (machine : Machine) (instruction : Instruction) :
    Prop where
  live : player.machine? = some machine
  running : player.state = .running
  executed : player.executed? .cycle = some instruction
  after : player.cycle.machine? = some (machine.perform instruction).acknowledgeScreen
  stays : player.cycle.state = .running
  news : player.news .cycle =
    .ofExecuted machine.timers.sound (machine.perform instruction) instruction

/-- A cycle rests, halts the run, or executes an instruction. -/
theorem cycle_courses (player : Player) :
    (player.executed? .cycle = none ∧ player.cycle = player ∧ player.news .cycle = .nothing) ∨
      (∃ machine fault, player.CycleHalts machine fault) ∨
      ∃ machine instruction, player.CycleExecutes machine instruction := by
  obtain ⟨settings, phase, channels⟩ := player
  cases phase with
  | idle | paused | halted => exact .inl ⟨rfl, rfl, news_of_tell rfl⟩
  | running run =>
      rcases run.machine.step_cases with ⟨_, step⟩ | ⟨fault, _, step⟩ | ⟨instruction, _, _, _, step⟩
      · refine .inl ⟨?_, cycle_of_waiting step, news_of_tell ?_⟩
        · simp only [executed?, Machine.executed?, step]
        · exact congrArg Player.channels (cycle_of_waiting step)
      · refine .inr (.inl ⟨run.machine, fault, rfl, rfl, ?_, ?_, ?_, ?_⟩)
        · simp only [executed?, Machine.executed?, step]
        · rw [cycle_of_faulted step]
          rfl
        · rw [cycle_of_faulted step]
          rfl
        · apply news_of_tell
          rw [after, cycle_of_faulted step]
          rfl
      · refine .inr (.inr ⟨run.machine, instruction, rfl, rfl, ?_, ?_, ?_, ?_⟩)
        · simp only [executed?, Machine.executed?, step]
        · rw [cycle_of_executed step]
          rfl
        · rw [cycle_of_executed step]
          rfl
        · apply news_of_tell
          rw [after, cycle_of_executed step]
          exact publishExecuted_eq_tell _ _ _ _

/-- A tick rests or counts the timers of the machine down. -/
theorem tick_courses (player : Player) :
    (player.tick = player ∧ player.news .tick = .nothing) ∨
      ∃ machine, player.machine? = some machine ∧ player.tick.machine? = some machine.tick ∧
        player.tick.state = player.state ∧
        player.news .tick = .ofSoundChange machine.timers.sound machine.tick := by
  obtain ⟨settings, phase, channels⟩ := player
  cases phase with
  | idle | paused | halted => exact .inl ⟨rfl, news_of_tell rfl⟩
  | running run =>
      exact .inr ⟨run.machine, rfl, rfl, rfl, news_of_tell (publishSoundChange_eq_tell _ _ _)⟩

/-- Cycles and ticks pass by a run that is not running. -/
theorem cycle_tick_of_not_running (resting : player.state ≠ .running) :
    player.cycle = player ∧ player.tick = player := by
  obtain ⟨settings, phase, channels⟩ := player
  cases phase with
  | idle | paused | halted => exact ⟨rfl, rfl⟩
  | running => exact absurd rfl resting

/-! ## What is published -/

/-- A player whose run is mirrored publishes exactly what there is to tell. -/
theorem Mirrors.publishesExactly (mirrors : player.Mirrors) : player.PublishesExactly where
  cycle_once := channels_after player .cycle
  tick_once := channels_after player .tick
  resting := by
    intro resting
    obtain ⟨cycle, tick⟩ := cycle_tick_of_not_running resting
    exact ⟨congrArg channels cycle, congrArg channels tick⟩
  cycle_frame := by
    rcases player.cycle_courses with
      ⟨idle, same, quiet⟩ | ⟨_, _, halts⟩ | ⟨machine, instruction, executes⟩
    · simp [quiet, idle, News.nothing]
    · simp [halts.news, halts.executed, News.ofHalt, News.ofInspection, News.nothing]
    · have clean := mirrors.acknowledged machine executes.live
      simp [executes.news, executes.executed, News.ofExecuted,
        ← Machine.screenChanged_perform_iff clean]
  cycle_sound := by
    rcases player.cycle_courses with
      ⟨_, same, quiet⟩ | ⟨_, _, halts⟩ | ⟨machine, instruction, executes⟩
    · simp [quiet, same, News.nothing]
    · simp [halts.news, sounding?, halts.live, halts.after, News.ofHalt, News.ofInspection,
        News.nothing]
    · have still : (machine.perform instruction).acknowledgeScreen.timers =
          (machine.perform instruction).timers := rfl
      simp [executes.news, sounding?, executes.live, executes.after, still, News.ofExecuted,
        News.ofSoundChange]
  cycle_inspection := by
    rcases player.cycle_courses with ⟨idle, same, quiet⟩ | ⟨_, fault, halts⟩ | ⟨_, _, executes⟩
    · simp +contextual [quiet, idle, same, News.nothing, HaltsOn]
    · simp [halts.news, halts.executed, HaltsOn, halts.running, halts.halted, News.ofHalt,
        News.ofInspection]
    · simp [executes.news, executes.executed, HaltsOn, executes.stays, News.ofExecuted,
        ← Instruction.consultsKeys_iff]
  cycle_playing := by
    rcases player.cycle_courses with ⟨idle, same, quiet⟩ | ⟨_, fault, halts⟩ | ⟨_, _, executes⟩
    · simp +contextual [quiet, same, News.nothing, HaltsOn]
    · simp [halts.news, HaltsOn, halts.running, halts.halted, News.ofHalt]
    · simp [executes.news, HaltsOn, executes.stays, News.ofExecuted, News.ofSoundChange,
        News.nothing]
  tick_only := by
    rcases player.tick_courses with ⟨_, quiet⟩ | ⟨machine, _, _, _, news⟩
    · rw [quiet]
    · rw [news]
      rfl
  tick_sound := by
    rcases player.tick_courses with ⟨same, quiet⟩ | ⟨machine, live, ticked, _, news⟩
    · simp [same, quiet, News.nothing]
    · simp [news, sounding?, ticked, live, News.ofSoundChange]

/-- If nothing else is another, it is enough that the sound timer is told. -/
theorem TellsChanges.ofSound {before after : Machine} (screen : after.screen = before.screen)
    (keypad : after.keypad = before.keypad) (tested : after.tested = before.tested)
    (still : (player.after event).state = player.state)
    (sound : after.timers.sound ≠ before.timers.sound →
      (player.news event).sound = some after.timers.sound) :
    player.TellsChanges event before after := by
  refine ⟨fun changed => absurd screen changed, sound, ?_⟩
  rintro (changed | changed | changed)
  · exact absurd (congrArg Keypad.awaiting keypad) changed
  · exact absurd tested changed
  · exact absurd (congrArg RunState.fault? still) changed

/-- A cycle tells what it has changed. -/
theorem tellsChanges_cycle {before after : Machine} (live : player.machine? = some before)
    (moved : player.cycle.machine? = some after) : player.TellsChanges .cycle before after := by
  rcases player.cycle_courses with
    ⟨_, same, _⟩ | ⟨_, fault, halts⟩ | ⟨machine, instruction, executes⟩
  · rw [same, live] at moved
    cases moved
    exact .ofSound rfl rfl rfl (congrArg state same) fun changed => absurd rfl changed
  · cases live.symm.trans halts.live
    cases moved.symm.trans halts.after
    refine ⟨fun changed => absurd rfl changed, fun changed => absurd rfl changed, fun _ => ?_⟩
    rw [halts.news, Player.after, halts.halted]
    rfl
  · cases live.symm.trans executes.live
    cases moved.symm.trans executes.after
    refine ⟨fun changed => ?_, fun changed => ?_, fun changed => ?_⟩
    · rw [executes.news]
      cases noted : (before.perform instruction).screenChanged with
      | true => exact if_pos noted
      | false => exact absurd (Machine.screen_perform noted) changed
    · rw [executes.news]
      exact if_neg changed
    · rw [Player.after, executes.stays, executes.running] at changed
      rw [executes.news, Player.after, executes.stays]
      cases consults : instruction.consultsKeys with
      | true => exact if_pos consults
      | false =>
          rcases changed with changed | changed | changed
          · exact absurd (congrArg Keypad.awaiting (Machine.keypad_perform consults)) changed
          · exact absurd (Machine.tested_perform consults) changed
          · exact absurd rfl changed

/-- A tick tells what it has changed. -/
theorem tellsChanges_tick {before after : Machine} (live : player.machine? = some before)
    (moved : player.tick.machine? = some after) : player.TellsChanges .tick before after := by
  rcases player.tick_courses with ⟨same, _⟩ | ⟨machine, live', ticked, state, news⟩
  · rw [same, live] at moved
    cases moved
    exact .ofSound rfl rfl rfl (congrArg state same) fun changed => absurd rfl changed
  · cases live.symm.trans live'
    cases moved.symm.trans ticked
    refine .ofSound rfl rfl rfl state fun changed => ?_
    rw [news]
    exact if_neg changed

/-! ## Pictures that were published already -/

/-- What has no news on the picture leaves the broadcast of pictures alone. -/
theorem frame_of_no_news (quiet : (player.news event).frame = none) :
    (player.after event).channels.frame = player.channels.frame := by
  rw [channels_after]
  exact congrArg player.channels.frame.tell quiet

/-- Where the broadcasts mirror a run, an event that keeps its picture publishes none. -/
theorem frame_after (mirrors : player.Mirrors) (live : player.machine? = some machine)
    (keeps : player.KeepsPicture event) :
    (player.after event).channels.frame = player.channels.frame := by
  obtain ⟨keepsMachine, paintsNothing⟩ := keeps
  have exact := mirrors.publishesExactly
  cases event with
  | tick => exact frame_of_no_news (congrArg News.frame exact.tick_only)
  | cycle =>
      apply frame_of_no_news
      cases news : (player.news .cycle).frame with
      | none => rfl
      | some picture =>
          obtain ⟨instruction, executed, paints⟩ := exact.cycle_frame.mp (by rw [news]; rfl)
          exact absurd paints (paintsNothing instruction executed)
  | command command =>
      obtain ⟨goesOn, notLoaded⟩ := keepsMachine command rfl
      cases command with
      | stop | shutDown => cases goesOn
      | load stored => rw [after, handle_load_of_not_done (notLoaded stored rfl)]
      | start | togglePause | press | release | save | askState =>
          obtain ⟨settings, phase, channels⟩ := player
          cases phase with
          | idle => cases live
          | running | paused | halted => rfl

/-- As long as the picture of a run is kept, none is published. -/
theorem frame_afterAll (mirrors : player.Mirrors) (live : player.machine? = some machine)
    (keep : ∀ entry ∈ player.chronicle events, entry.1.KeepsPicture entry.2) :
    (player.afterAll events).channels.frame = player.channels.frame := by
  induction events generalizing player machine with
  | nil => rfl
  | cons event rest ih =>
      obtain ⟨first, others⟩ := List.forall_mem_cons.mp keep
      have later := ih (mirrors.after event) (machine?_after live first.1) others
      exact later.trans (frame_after mirrors live first)

/-- A player that has just taken over a machine has published its picture, once. -/
structure HasBegun (player begun : Player) : Prop where
  mirrors : begun.Mirrors
  picture : ∃ machine, begun.machine? = some machine ∧
    begun.channels.frame = player.channels.frame.publish machine.screen

theorem HasBegun.ofStart {started : Player} {program : Program} {fresh : UInt64}
    (accepted : player.start program fresh = .ok started) : player.HasBegun started := by
  refine ⟨.start accepted, ?_⟩
  obtain ⟨settings, phase, channels⟩ := player
  cases phase <;> cases accepted
  exact ⟨_, rfl, rfl⟩

theorem HasBegun.ofLoad {loaded : Player} {stored : SaveState}
    (accepted : player.load stored = .ok loaded) : player.HasBegun loaded := by
  refine ⟨.load accepted, ?_⟩
  obtain ⟨settings, phase, channels⟩ := player
  cases phase with
  | idle | halted => cases accepted
  | running run | paused run =>
      simp only [load] at accepted
      split at accepted <;> cases accepted
      exact ⟨_, rfl, rfl⟩

/-- The picture of a machine that was just taken over stays the last one published, as long as
nothing is executed that paints. -/
theorem HasBegun.frame_afterAll {begun : Player} (hasBegun : player.HasBegun begun)
    (keep : ∀ entry ∈ begun.chronicle events, entry.1.KeepsPicture entry.2) :
    (begun.afterAll events).channels.frame.published = player.channels.frame.published + 1 := by
  obtain ⟨machine, live, published⟩ := hasBegun.picture
  rw [Player.frame_afterAll hasBegun.mirrors live keep, published]
  rfl

/-- Publications are exact. A reachable player that is asked for a cycle or a tick publishes what
there is to tell of it, each value once, and nothing else. So whatever a cycle or a tick changes of
the picture, the sound timer, the awaited key, the tested keys or the fault is told by itself; and
when a start or a load has published the picture of its machine, no other picture is published
until an instruction clears the screen or draws on it, or the run is ended or its machine
replaced. -/
theorem publications_exact (reachable : player.Reachable) :
    player.PublishesExactly ∧
    (∀ event before after, event = .cycle ∨ event = .tick → player.machine? = some before →
      (player.after event).machine? = some after → player.TellsChanges event before after) ∧
    ∀ begun, (∃ program fresh, player.start program fresh = .ok begun) ∨
        (∃ stored, player.load stored = .ok begun) →
      ∀ events, (∀ entry ∈ begun.chronicle events, entry.1.KeepsPicture entry.2) →
        (begun.afterAll events).channels.frame.published =
          player.channels.frame.published + 1 := by
  refine ⟨reachable.mirrors.publishesExactly, ?_, ?_⟩
  · rintro event before after (rfl | rfl) live moved
    · exact tellsChanges_cycle live moved
    · exact tellsChanges_tick live moved
  · rintro begun (⟨program, fresh, accepted⟩ | ⟨stored, accepted⟩) events keep
    · exact (HasBegun.ofStart accepted).frame_afterAll keep
    · exact (HasBegun.ofLoad accepted).frame_afterAll keep

/-- A program that sets the sound timer to five: its second cycle tells so, and neither of its two
cycles publishes the picture again that the start has published. -/
theorem publications_exact_sound :
    let image : List UInt8 := [0x60, 0x05, 0xF0, 0x18]
    let program : Program := ⟨"sound", image, .ofBytes image, by simp, by decide, rfl⟩
    let started := (ofSettings ⟨700, some 0⟩).after (.command (.start program 0))
    started.cycle.Reachable ∧ (started.cycle.news .cycle).sound = some 5 ∧
      started.cycle.PublishesExactly ∧
      (started.afterAll [.cycle, .cycle]).channels.frame.published = 1 := by
  intro image program started
  let machine := (Machine.boot image 0).acknowledgeScreen
  let loaded := (machine.perform (.setConstant 0 5)).acknowledgeScreen
  let sounding := (loaded.perform (.setSound 0)).acknowledgeScreen
  have first : machine.step = (.executed (.setConstant 0 5), machine.perform (.setConstant 0 5)) :=
    Machine.step_of_fetch rfl (Machine.fetch_of_image rfl (by decide) (by decide)) rfl
  have second : loaded.step = (.executed (.setSound 0), loaded.perform (.setSound 0)) :=
    Machine.step_of_fetch rfl (Machine.fetch_of_image rfl (by decide) (by decide)) rfl
  have reachable : (started.after .cycle).Reachable := .after rfl (.after rfl (.fresh _))
  -- stated of any machines, so that nothing of them is evaluated
  have courses (machine loaded sounding : Machine) (channels : Channels)
      (first : machine.step = (.executed (.setConstant 0 5), loaded))
      (second : loaded.acknowledgeScreen.step = (.executed (.setSound 0), sounding)) :
      let started : Player := ⟨⟨700, some 0⟩, .running ⟨program, machine⟩, channels⟩
      started.executed? .cycle = some (.setConstant 0 5) ∧
        started.cycle.executed? .cycle = some (.setSound 0) ∧
        started.cycle.machine? = some loaded.acknowledgeScreen ∧
        started.cycle.cycle.machine? = some sounding.acknowledgeScreen := by
    intro started
    rw [show started.cycle = _ from cycle_of_executed first, cycle_of_executed second]
    simp only [executed?, Machine.executed?, started, first, second]
    exact ⟨trivial, trivial, rfl, rfl⟩
  obtain ⟨one, two, before, after⟩ :=
    courses machine _ _ (Channels.silent.publishAll machine .running) first second
  obtain ⟨exact, tells, -⟩ := publications_exact reachable
  obtain ⟨-, -, published⟩ := publications_exact (.fresh ⟨700, some 0⟩)
  refine ⟨reachable, ?_, exact, published started (.inl ⟨program, 0, rfl⟩) [.cycle, .cycle] ?_⟩
  · exact (tells .cycle loaded sounding (.inl rfl) before after).sound (by decide)
  · intro entry listed
    rcases List.mem_cons.mp listed with rfl | listed
    · refine ⟨keepsMachine_of_no_command rfl, fun instruction executed => ?_⟩
      cases one.symm.trans executed
      simp [Instruction.Paints]
    · cases List.mem_singleton.mp listed
      refine ⟨keepsMachine_of_no_command rfl, fun instruction executed => ?_⟩
      cases two.symm.trans executed
      simp [Instruction.Paints]

end Player

end Chip8
