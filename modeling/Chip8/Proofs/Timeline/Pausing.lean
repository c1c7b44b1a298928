import Chip8.Proofs.Pacer.Course
import Chip8.Proofs.Player.Halting
import Chip8.Proofs.Timeline.Order

/-!
# Pauses make no difference

Two runs of a program with one seed that are always woken on time and meet the same keys after the
same time of running have done the same whenever they were running for the same time, however often
and for how long either of them was paused: `Timeline.pausing_transparent`. The time for which a run
was running determines its beats and their order, hence how many of them come before each key,
hence the whole course of beats and keys; and of the course, pauses taken back, the player is made.
-/

namespace Chip8

namespace Pacer

/-- Wake-ups do nothing to a player that is not running. -/
theorem catchUpAll_of_not_running {pacer : Pacer} (resting : pacer.player.state ≠ .running)
    (times : List Nat) : pacer.catchUpAll times = pacer ∧ pacer.beatsAll times = [] := by
  induction times with
  | nil => exact ⟨rfl, rfl⟩
  | cons time rest ih =>
      obtain ⟨same, none⟩ := ih
      have asleep : pacer.catchUp time = pacer := catchUp_of_not_running resting
      refine ⟨?_, ?_⟩
      · rw [catchUpAll, List.foldl_cons, asleep]
        exact same
      · rw [beatsAll, asleep, none, beats_of_none (nextBeat?_of_not_running resting)]
        rfl

/-- Wake-ups perform beats on a player that is running, and nothing on any other: a pause that is
still lasting apart, the player is what the beats have made of it. -/
theorem resumed_catchUpAll (pacer : Pacer) (times : List Nat) :
    (pacer.catchUpAll times).player.resumed =
      pacer.player.resumed.afterAll ((pacer.beatsAll times).map (·.1.event)) := by
  by_cases paused : pacer.player.state = .paused
  · have resting : pacer.player.state ≠ .running := by
      rw [paused]
      exact nofun
    obtain ⟨same, none⟩ := catchUpAll_of_not_running resting times
    rw [same, none]
    rfl
  · have still := Player.not_paused_afterAll_beats paused ((pacer.beatsAll times).map (·.1))
    rw [List.map_map] at still
    rw [Player.resumed_of_not_paused paused, player_catchUpAll]
    exact Player.resumed_of_not_paused still

end Pacer

namespace Timeline

/-- An event in which nothing happens to a run but time, on time, pauses and keys. Keys are met
while the run is not paused, and there is no harm in questions. -/
def KeepsCourse (timeline : Timeline) : Event → Prop
  | .command (.press _) | .command (.release _) => timeline.pacer.player.state ≠ .paused
  | .command .togglePause | .command .save | .command .askState => True
  | .command _ => False
  | event => timeline.Punctual event

/-- The commands about keys that reach a run while it is running, in the course of an event. -/
def keys (timeline : Timeline) : Event → List Command
  | .command command =>
      if timeline.pacer.player.state = .running ∧ command.keyEvent? ≠ none then [command] else []
  | _ => []

/-- The keys that a run meets while it is running, each with the time for which it was running
before, when it was already running for some time. -/
def keyTimes (timeline : Timeline) (active : Nat) : List Event → List (Nat × Command)
  | [] => []
  | event :: rest =>
      (timeline.keys event).map (active, ·) ++
        (timeline.after event).keyTimes
          (active +
            timeline.pacer.activeTime timeline.now (timeline.after event).now
              (timeline.wakeUps event)) rest

/-- What reaches a run while it is running, in the course of an event. -/
def impulses (timeline : Timeline) (event : Event) : List Impulse :=
  (timeline.keys event).map .command ++
    ((timeline.pacer.beatsAll (timeline.wakeUps event)).map (·.1)).map .beat

/-- What reaches a run while it is running, in the course of some events. -/
def course (timeline : Timeline) : List Event → List Impulse
  | [] => []
  | event :: rest => timeline.impulses event ++ (timeline.after event).course rest

/-- What impulses let happen to a player. -/
theorem map_event_impulses (timeline : Timeline) (event : Event) :
    (timeline.impulses event).map Impulse.event =
      (timeline.keys event).map .command ++
        (timeline.pacer.beatsAll (timeline.wakeUps event)).map (·.1.event) := by
  rw [impulses, List.map_append, List.map_map, List.map_map, List.map_map]
  rfl

variable {timeline : Timeline} {settings : Settings} {active : Nat} {performed : List Beat}
  {event : Event} {events : List Event}

/-- Runs are not started. -/
theorem KeepsCourse.not_starts (keeps : timeline.KeepsCourse event) : ¬timeline.Starts event := by
  cases event with
  | advance | oversleep | jump => exact id
  | command command =>
      cases command with
      | start => exact keeps.elim
      | stop | togglePause | press | release | save | load | askState | shutDown => exact id

/-- The pacer is woken on time. -/
theorem KeepsCourse.punctual (keeps : timeline.KeepsCourse event) : timeline.Punctual event := by
  cases event with
  | command => trivial
  | advance | oversleep | jump => exact keeps

theorem Throughout.mono {holds holds' : Timeline → Event → Prop}
    (throughout : timeline.Throughout holds events)
    (weaker : ∀ timeline event, holds timeline event → holds' timeline event) :
    timeline.Throughout holds' events := by
  induction events generalizing timeline with
  | nil => trivial
  | cons event rest ih => exact ⟨weaker timeline event throughout.1, ih throughout.2⟩

@[simp] theorem beatsOf_impulses (timeline : Timeline) (event : Event) :
    Impulse.beatsOf (timeline.impulses event) =
      (timeline.pacer.beatsAll (timeline.wakeUps event)).map (·.1) := by
  rw [impulses, Impulse.beatsOf_append, Impulse.beatsOf_map_command, Impulse.beatsOf_map_beat,
    List.nil_append]

@[simp] theorem commandsFrom_impulses (count : Nat) (timeline : Timeline) (event : Event) :
    Impulse.commandsFrom count (timeline.impulses event) =
      (timeline.keys event).map (count, ·) := by
  rw [impulses, Impulse.commandsFrom_append, Impulse.commandsFrom_map_command,
    Impulse.commandsFrom_map_beat, List.append_nil]

/-- The beats of the course are those that were performed. -/
theorem beatsOf_course (timeline : Timeline) (events : List Event) :
    Impulse.beatsOf (timeline.course events) = timeline.performed events := by
  induction events generalizing timeline with
  | nil => rfl
  | cons event rest ih =>
      rw [course, Impulse.beatsOf_append, beatsOf_impulses, ih]
      rfl

/-- In a run that is always woken on time, the time at which a key is met says how many beats are
performed before. -/
theorem commandsFrom_course (onTime : timeline.OnTime settings active performed)
    (keeps : timeline.Throughout KeepsCourse events) :
    Impulse.commandsFrom performed.length (timeline.course events) =
      (timeline.keyTimes active events).map fun (time, command) =>
        (time / settings.period .cycle + time / settings.period .tick, command) := by
  induction events generalizing timeline active performed with
  | nil => rfl
  | cons event rest ih =>
      obtain ⟨here, later⟩ := keeps
      have next := ih (onTime.after here.not_starts here.punctual) later
      have count := onTime.onPace.length_performed trivial
      rw [List.length_append] at next
      rw [course, Impulse.commandsFrom_append, commandsFrom_impulses, beatsOf_impulses, next,
        keyTimes, List.map_append, List.map_map, count]
      rfl

/-- The time for which a run was running since its start says which beats it has performed. -/
theorem performed_eq (onTime : timeline.OnTime settings 0 [])
    (keeps : timeline.Throughout KeepsCourse events) :
    timeline.performed events =
      settings.beats (timeline.activeTime events / settings.period .cycle +
        timeline.activeTime events / settings.period .tick) := by
  have inTime := keeps.mono fun _ _ here => And.intro here.not_starts here.punctual
  have last := (onTime.afterAll inTime).performed_eq
  rw [List.nil_append, Nat.zero_add] at last
  exact last

variable {other : Timeline} {others : List Event}

/-- The course of a run that is always woken on time is known from the time for which it was
running and from the times at which it met keys. -/
theorem course_eq (onTime : timeline.OnTime settings 0 []) (onTime' : other.OnTime settings 0 [])
    (keeps : timeline.Throughout KeepsCourse events)
    (keeps' : other.Throughout KeepsCourse others)
    (sameKeys : timeline.keyTimes 0 events = other.keyTimes 0 others)
    (sameTime : timeline.activeTime events = other.activeTime others) :
    timeline.course events = other.course others := by
  have beats : Impulse.beatsOf (timeline.course events) =
      Impulse.beatsOf (other.course others) := by
    rw [beatsOf_course, beatsOf_course, performed_eq onTime keeps, performed_eq onTime' keeps',
      sameTime]
  have commands : Impulse.commandsFrom 0 (timeline.course events) =
      Impulse.commandsFrom 0 (other.course others) := by
    have left := commandsFrom_course onTime keeps
    rw [sameKeys] at left
    exact left.trans (commandsFrom_course onTime' keeps').symm
  exact Impulse.eq_of_beatsOf beats commands

/-- Nothing but beats and keys reaches a run. -/
theorem keepsRun_of_mem_impulses {impulse : Impulse} (reaches : impulse ∈ timeline.impulses event) :
    impulse.event.KeepsRun ∧
      ∀ command, impulse.event.command? = some command → command.startsRun = false := by
  rcases List.mem_append.mp reaches with key | beat
  · obtain ⟨command, met, rfl⟩ := List.mem_map.mp key
    have about : command.keyEvent? ≠ none := by
      cases event with
      | advance | oversleep | jump => cases met
      | command asked =>
          simp only [keys] at met
          split at met
          · rename_i reached
            cases List.mem_singleton.mp met
            exact reached.2
          · cases met
    cases command with
    | press | release => refine ⟨⟨rfl, ?_⟩, ?_⟩ <;> rintro _ ⟨⟩ <;> rfl
    | start | stop | togglePause | save | load | askState | shutDown => exact absurd rfl about
  · obtain ⟨due, -, rfl⟩ := List.mem_map.mp beat
    cases due <;> exact ⟨⟨rfl, nofun⟩, nofun⟩

theorem keepsRun_of_mem_course {happens : Player.Event}
    (reaches : happens ∈ (timeline.course events).map Impulse.event) :
    happens.KeepsRun ∧
      ∀ command, happens.command? = some command → command.startsRun = false := by
  obtain ⟨impulse, listed, rfl⟩ := List.mem_map.mp reaches
  clear reaches
  induction events generalizing timeline with
  | nil => cases listed
  | cons event rest ih =>
      rcases List.mem_append.mp listed with here | later
      · exact keepsRun_of_mem_impulses here
      · exact ih later

theorem noStart_of_mem_course :
    ∀ happens ∈ (timeline.course events).map Impulse.event,
      ∀ command, happens.command? = some command → command.startsRun = false :=
  fun _ reaches => (keepsRun_of_mem_course reaches).2

/-- A key that a player meets while it is not paused reaches it if it is running, and is ignored
otherwise. -/
theorem resumed_handle_key {command : Command} (about : command.keyEvent? ≠ none)
    (awake : timeline.pacer.player.state ≠ .paused) :
    (timeline.pacer.player.handle command).2.resumed.Alike
      (timeline.pacer.player.resumed.afterAll
        ((timeline.keys (.command command)).map .command)) := by
  rw [Player.resumed_of_not_paused awake,
    Player.resumed_of_not_paused (Player.not_paused_handle_key about awake), keys]
  by_cases running : timeline.pacer.player.state = .running
  · rw [if_pos ⟨running, about⟩]
    exact .refl _
  · rw [if_neg fun reached => running reached.1, Player.handle_key_of_stopped about awake running]
    exact .refl _

/-- A pause that is still lasting apart, a command makes of a player what it makes of a player that
it reaches. -/
theorem resumed_handle {command : Command} (keeps : timeline.KeepsCourse (.command command)) :
    (timeline.pacer.player.handle command).2.resumed.Alike
      (timeline.pacer.player.resumed.afterAll
        ((timeline.keys (.command command)).map .command)) := by
  cases command with
  | start | stop | load | shutDown => exact keeps.elim
  | togglePause =>
      rw [keys, if_neg fun reached => reached.2 rfl]
      exact timeline.pacer.player.resumed_togglePause
  | askState =>
      rw [keys, if_neg fun reached => reached.2 rfl]
      exact .refl _
  | save =>
      have same : (timeline.pacer.player.handle .save).2 = timeline.pacer.player := by
        simp only [Player.handle]
        split <;> rfl
      rw [same, keys, if_neg fun reached => reached.2 rfl]
      exact .refl _
  | press | release =>
      refine resumed_handle_key ?_ keeps
      rintro ⟨⟩

/-- A pause that is still lasting apart, an event makes of a player what the impulses make of it. -/
theorem resumed_after (keeps : timeline.KeepsCourse event) :
    (timeline.after event).pacer.player.resumed.Alike
      (timeline.pacer.player.resumed.afterAll ((timeline.impulses event).map Impulse.event)) := by
  rw [map_event_impulses]
  cases event with
  | command command =>
      rw [player_after_command, wakeUps, Pacer.beatsAll, List.map_nil, List.append_nil]
      exact resumed_handle keeps
  | advance | oversleep | jump =>
      rw [pacer_after (by rintro _ ⟨⟩), Pacer.resumed_catchUpAll]
      exact .refl _

/-- A pause that is still lasting apart, a player is what its course has made of it. -/
theorem resumed_afterAll (keeps : timeline.Throughout KeepsCourse events) :
    (timeline.afterAll events).pacer.player.resumed.Alike
      (timeline.pacer.player.resumed.afterAll ((timeline.course events).map Impulse.event)) := by
  induction events generalizing timeline with
  | nil => exact .refl _
  | cons event rest ih =>
      obtain ⟨here, later⟩ := keeps
      rw [course, List.map_append, Player.afterAll_append]
      exact (ih later).trans ((resumed_after here).afterAll noStart_of_mem_course).2.2

/-- A run is kept throughout its course. -/
theorem exists_machine_afterAll (live : timeline.pacer.player.state ≠ .idle)
    (keeps : timeline.Throughout KeepsCourse events) :
    ∃ machine, (timeline.afterAll events).pacer.player.machine? = some machine := by
  obtain ⟨machine, begun⟩ := Player.exists_machine live
  rw [← Player.machine?_resumed] at begun
  obtain ⟨happened, last⟩ := Player.exists_course begun
    fun _ reaches => (keepsRun_of_mem_course reaches).1
  refine ⟨machine.afterAll happened, ?_⟩
  rw [← Player.machine?_resumed, (resumed_afterAll keeps).machine?_eq]
  exact last

/-- Nothing that happens on a timeline changes the settings. -/
theorem settings_afterAll (timeline : Timeline) (events : List Event) :
    (timeline.afterAll events).pacer.player.settings = timeline.pacer.player.settings := by
  rw [player_afterAll, Player.settings_afterAll]

/-- Two runs of a program start alike if the settings fix the seed, and neither starts paused. -/
theorem resumed_alike_of_starts {first second : Timeline} {program : Program}
    {fresh fresh' seed : UInt64}
    (same : first.pacer.player.settings = second.pacer.player.settings)
    (seeded : first.pacer.player.settings.seed = some seed)
    (accepted : first.Starts (.command (.start program fresh)))
    (accepted' : second.Starts (.command (.start program fresh'))) :
    (first.after (.command (.start program fresh))).pacer.player.resumed.Alike
      (second.after (.command (.start program fresh'))).pacer.player.resumed := by
  obtain ⟨idle, running⟩ :=
    Player.state_of_started ((Pacer.reply_handle _ _ _).symm.trans accepted)
  obtain ⟨idle', running'⟩ :=
    Player.state_of_started ((Pacer.reply_handle _ _ _).symm.trans accepted')
  rw [player_after_command, player_after_command,
    Player.resumed_of_not_paused (by rw [running]; exact nofun),
    Player.resumed_of_not_paused (by rw [running']; exact nofun)]
  exact Player.alike_of_started same seeded idle idle'

/-- Two runs that begin alike and take the same course end alike, pauses that are still lasting
apart. -/
theorem resumed_alike_of_course
    (begun : timeline.pacer.player.resumed.Alike other.pacer.player.resumed)
    (keeps : timeline.Throughout KeepsCourse events)
    (keeps' : other.Throughout KeepsCourse others)
    (course : timeline.course events = other.course others) :
    (timeline.afterAll events).pacer.player.resumed.Alike
      (other.afterAll others).pacer.player.resumed := by
  have left := resumed_afterAll keeps
  have right := resumed_afterAll keeps'
  rw [← course] at right
  exact left.trans ((begun.afterAll noStart_of_mem_course).2.2.trans right.symm)

/-- Pauses make no difference. Let two runs of a program be started under settings that fix the
seed, after any histories, and let nothing happen then but time that passes with wake-ups on time,
pauses of any number and length, and keys while the run is not paused. If both have met the same
keys, each after the same time of running, and both were running for the same time, then they have
performed the same beats in the same order, their machines are the same, and if a fault has halted
one of them, it has halted the other. -/
theorem pausing_transparent (settings : Settings) {seed : UInt64}
    (seeded : settings.seed = some seed) (program : Program) (before before' : List Event)
    (fresh fresh' : UInt64) (since since' : List Event)
    (accepted : ((start settings).afterAll before).Starts (.command (.start program fresh)))
    (accepted' : ((start settings).afterAll before').Starts (.command (.start program fresh'))) :
    let run := ((start settings).afterAll before).after (.command (.start program fresh))
    let other := ((start settings).afterAll before').after (.command (.start program fresh'))
    run.Throughout KeepsCourse since → other.Throughout KeepsCourse since' →
      run.keyTimes 0 since = other.keyTimes 0 since' →
      run.activeTime since = other.activeTime since' →
        run.performed since = other.performed since' ∧
        (∃ machine, (run.afterAll since).pacer.player.machine? = some machine ∧
          (other.afterAll since').pacer.player.machine? = some machine) ∧
        ∀ fault, (run.afterAll since).pacer.player.state = .halted fault ↔
          (other.afterAll since').pacer.player.state = .halted fault := by
  intro run other keeps keeps' sameKeys sameTime
  have onTime : run.OnTime settings 0 [] := .start accepted
  have onTime' : other.OnTime settings 0 [] := .start accepted'
  have course := course_eq onTime onTime' keeps keeps' sameKeys sameTime
  have sameSettings : ((start settings).afterAll before).pacer.player.settings =
      ((start settings).afterAll before').pacer.player.settings := by
    rw [settings_afterAll, settings_afterAll]
  have fixed : ((start settings).afterAll before).pacer.player.settings.seed = some seed := by
    rw [settings_afterAll]
    exact seeded
  have begun : run.pacer.player.resumed.Alike other.pacer.player.resumed :=
    resumed_alike_of_starts sameSettings fixed accepted accepted'
  have alike := resumed_alike_of_course begun keeps keeps' course
  have live : run.pacer.player.state ≠ .idle := by
    rw [player_after_command,
      (Player.state_of_started ((Pacer.reply_handle _ _ _).symm.trans accepted)).2]
    exact nofun
  refine ⟨?_, ?_, fun fault => ?_⟩
  · rw [performed_eq onTime keeps, performed_eq onTime' keeps', sameTime]
  · have same := alike.machine?_eq
    rw [Player.machine?_resumed, Player.machine?_resumed] at same
    obtain ⟨machine, last⟩ := exists_machine_afterAll live keeps
    exact ⟨machine, last, same.symm.trans last⟩
  · obtain ⟨state, -⟩ := Player.alike_iff.mp alike
    rw [← Player.state_resumed_eq_halted_iff, state, Player.state_resumed_eq_halted_iff]

/-- A run that meets a key without a pause, and one that is paused shortly before it meets it. -/
theorem pausing_transparent_key :
    let program : Program := ⟨"wait", [0xF3, 0x0A], .ofBytes [0xF3, 0x0A], by simp, by decide, rfl⟩
    let run := ((start ⟨1000000, some 0⟩).afterAll []).after (.command (.start program 0))
    let key : Event := .command (.press ⟨7⟩)
    let pause : Event := .command .togglePause
    let since : List Event := [.jump 400, key, .oversleep 600]
    let paused : List Event := [.jump 400, pause, .jump 50, pause, key, .oversleep 600]
    run.performed since = run.performed paused ∧
      ∃ machine, (run.afterAll since).pacer.player.machine? = some machine ∧
        (run.afterAll paused).pacer.player.machine? = some machine := by
  intro program run key pause since paused
  -- stated of any timeline, so that nothing is evaluated but what the events ask for
  have alike (timeline : Timeline) (begun : Run)
      (running : timeline.pacer.player.phase = .running begun) (origin : timeline.now = 0)
      (cycles : timeline.pacer.cycles.hand = .ticking 1000)
      (ticks : timeline.pacer.ticks.hand = .ticking 16666666) :
      timeline.Throughout KeepsCourse since ∧ timeline.Throughout KeepsCourse paused ∧
        timeline.keyTimes 0 since = timeline.keyTimes 0 paused ∧
        timeline.activeTime since = timeline.activeTime paused := by
    obtain ⟨⟨⟨settings, phase, channels⟩, ⟨period, hand, pos⟩, ⟨period', hand', pos'⟩⟩, now⟩ :=
      timeline
    cases running
    cases origin
    cases cycles
    cases ticks
    simp [since, paused, key, pause, Throughout, KeepsCourse, Punctual, keyTimes, keys,
      Command.keyEvent?, activeTime, wakeUps, Pacer.activeTime, Pacer.elapsed, after, jump,
      oversleep, Timeline.handle, Pacer.handle, Player.handle, Player.togglePause, Player.press,
      Player.withKeys, Pacer.followChange, Metronome.freeze, Metronome.thaw, Pacer.deadline?,
      Metronome.deadline?, Player.state, Phase.state]
  let booted := (Machine.boot [0xF3, 0x0A] 0).acknowledgeScreen
  obtain ⟨keeps, keeps', keys, time⟩ :=
    alike run ⟨program, booted⟩ rfl rfl (by decide) (by decide)
  obtain ⟨performed, machine, -⟩ := pausing_transparent ⟨1000000, some 0⟩ rfl program [] [] 0 0
    since paused rfl rfl keeps keeps' keys time
  exact ⟨performed, machine⟩

end Timeline

end Chip8
