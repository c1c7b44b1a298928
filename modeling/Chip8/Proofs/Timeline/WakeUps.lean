import Chip8.Proofs.Pacer.Waking
import Chip8.Proofs.Player.Stopped

/-!
# The wake-ups of a timeline

Whatever happens on a timeline, the pacer is woken at certain instants and left alone in between.
Here the instants are listed, so that wake-ups on time, late wake-ups and none at all are cases of
the same thing, and it is counted for how long a run is running and which beats are performed. What
is listed is what takes place: the player of the pacer is what the commands and the performed beats
have made of it (`Timeline.player_afterAll`).
-/

namespace Chip8

@[simp] theorem Beat.command?_event (beat : Beat) : beat.event.command? = none := by
  cases beat <;> rfl

namespace Pacer

/-- The instants at which a pacer is woken until `finish`. -/
def wakeUpsUntil (pacer : Pacer) (now finish : Nat) : List Nat :=
  match _next : pacer.deadline? with
  | none => []
  | some deadline =>
      if _reached : deadline ≤ finish then
        max now deadline :: (pacer.catchUp (max now deadline)).wakeUpsUntil (max now deadline) finish
      else []
termination_by finish + 1 - pacer.deadline?.getD (finish + 1)
decreasing_by
  have running := running_of_deadline? ‹_›
  simp only [_next, Option.getD_some]
  cases after : (pacer.catchUp (max now deadline)).deadline? with
  | none => simp only [Option.getD_none]; omega
  | some later =>
      have := lt_of_deadline_catchUp running after
      simp only [Option.getD_some]
      omega

/-- Waking a pacer until `finish` is waking it at the listed instants. -/
theorem runUntil_eq_catchUpAll (pacer : Pacer) (now finish : Nat) :
    pacer.runUntil now finish = pacer.catchUpAll (pacer.wakeUpsUntil now finish) := by
  fun_induction wakeUpsUntil pacer now finish with
  | case1 pacer now none =>
      rw [runUntil]
      split
      · rfl
      · simp_all
  | case2 pacer now deadline next reached ih =>
      rw [runUntil]
      split
      · simp_all
      · rename_i other otherNext
        cases next.symm.trans otherNext
        rw [dif_pos reached, ih]
        rfl
  | case3 pacer now deadline next reached =>
      rw [runUntil]
      split
      · rfl
      · rename_i other otherNext
        cases next.symm.trans otherNext
        rw [dif_neg reached]
        rfl

/-- How much of the time between two instants counts as running, if nothing happens in between. -/
def elapsed (pacer : Pacer) (now later : Nat) : Nat :=
  if pacer.player.state = .running then later - now else 0

@[simp] theorem elapsed_self (pacer : Pacer) (now : Nat) : pacer.elapsed now now = 0 := by
  simp [elapsed]

/-- How long a run is running until `finish` if the pacer is woken at the listed instants. A run
that halts is running until the wake-up that halts it. -/
def activeTime (pacer : Pacer) (now finish : Nat) : List Nat → Nat
  | [] => pacer.elapsed now finish
  | time :: rest => pacer.elapsed now time + (pacer.catchUp time).activeTime time finish rest

end Pacer

namespace Timeline

/-- The instants at which the pacer is woken in the course of an event. -/
def wakeUps (timeline : Timeline) : Event → List Nat
  | .command _ | .jump _ => []
  | .advance duration =>
      timeline.pacer.wakeUpsUntil timeline.now (timeline.now + duration)
  | .oversleep duration => [timeline.now + duration]

/-- For how long a run is running in the course of some events. -/
def activeTime (timeline : Timeline) : List Event → Nat
  | [] => 0
  | event :: rest =>
      timeline.pacer.activeTime timeline.now (timeline.after event).now (timeline.wakeUps event) +
        (timeline.after event).activeTime rest

/-- The beats that are performed in the course of some events, in order. -/
def performed (timeline : Timeline) : List Event → List Beat
  | [] => []
  | event :: rest =>
      (timeline.pacer.beatsAll (timeline.wakeUps event)).map (·.1) ++
        (timeline.after event).performed rest

/-- The command that an event carries, if it is one. -/
def Event.command? : Event → Option Command
  | .command asked => some asked
  | _ => none

/-- What happens to the player in the course of an event: a command reaches it, or the beats that
are performed move it on. -/
def happening (timeline : Timeline) : Event → List Player.Event
  | .command asked => [.command asked]
  | event => (timeline.pacer.beatsAll (timeline.wakeUps event)).map (·.1.event)

/-- What happens to the player in the course of some events, in order. -/
def happened (timeline : Timeline) : List Event → List Player.Event
  | [] => []
  | event :: rest => timeline.happening event ++ (timeline.after event).happened rest

/-- Something holds of every event and the timeline on which it happens. -/
def Throughout (holds : Timeline → Event → Prop) (timeline : Timeline) : List Event → Prop
  | [] => True
  | event :: rest => holds timeline event ∧ (timeline.after event).Throughout holds rest

/-- The event is a start, and it is accepted. -/
def Starts (timeline : Timeline) : Event → Prop
  | .command (.start program fresh) => (timeline.handle (.start program fresh)).1 = .done
  | _ => False

/-- While the run is running, no deadline passes without a wake-up. Time that passes with a wake-up
at each deadline passes like this; otherwise the next deadline may not be overslept. -/
def Punctual (timeline : Timeline) : Event → Prop
  | .command _ | .advance _ => True
  | .oversleep duration =>
      ∀ deadline, timeline.pacer.deadline? = some deadline → timeline.now + duration ≤ deadline
  | .jump duration =>
      ∀ deadline, timeline.pacer.deadline? = some deadline → timeline.now + duration < deadline

/-- When time passes, the pacer is woken at the listed instants, and nothing else happens to it. -/
theorem pacer_after {timeline : Timeline} {event : Event}
    (passes : ∀ command, event ≠ .command command) :
    (timeline.after event).pacer = timeline.pacer.catchUpAll (timeline.wakeUps event) := by
  cases event with
  | command command => exact absurd rfl (passes command)
  | advance duration => exact timeline.pacer.runUntil_eq_catchUpAll _ _
  | oversleep duration | jump duration => rfl

theorem player_after_command (timeline : Timeline) (command : Command) :
    (timeline.after (.command command)).pacer.player = (timeline.pacer.player.handle command).2 :=
  timeline.pacer.player_handle command timeline.now

/-- The player behind an event is what the command or the performed beats have made of it. -/
theorem player_after (timeline : Timeline) (event : Event) :
    (timeline.after event).pacer.player =
      timeline.pacer.player.afterAll (timeline.happening event) := by
  cases event with
  | command command => exact timeline.player_after_command command
  | advance | oversleep | jump =>
      rw [pacer_after (by rintro _ ⟨⟩), Pacer.player_catchUpAll]
      rfl

/-- The player behind some events is what the commands and the performed beats have made of it. -/
theorem player_afterAll (timeline : Timeline) (events : List Event) :
    (timeline.afterAll events).pacer.player =
      timeline.pacer.player.afterAll (timeline.happened events) := by
  induction events generalizing timeline with
  | nil => rfl
  | cons event rest ih =>
      rw [happened, Player.afterAll_append, ← player_after]
      exact ih (timeline.after event)

theorem filterMap_beat?_happening (timeline : Timeline) (event : Event) :
    (timeline.happening event).filterMap Player.Event.beat? =
      (timeline.pacer.beatsAll (timeline.wakeUps event)).map (·.1) := by
  have beats : (Player.Event.beat? ∘ fun entry : Beat × Nat => entry.1.event) = some ∘ Prod.fst :=
    funext fun entry => entry.1.beat?_event
  cases event with
  | command => rfl
  | advance | oversleep | jump =>
      rw [happening, List.filterMap_map, beats, List.filterMap_eq_map]
      exact nofun

/-- The cycles and ticks that happen to the player are the beats that are performed. -/
theorem filterMap_beat?_happened (timeline : Timeline) (events : List Event) :
    (timeline.happened events).filterMap Player.Event.beat? = timeline.performed events := by
  induction events generalizing timeline with
  | nil => rfl
  | cons event rest ih =>
      rw [happened, List.filterMap_append, filterMap_beat?_happening, ih]
      rfl

theorem filterMap_command?_happening (timeline : Timeline) (event : Event) :
    (timeline.happening event).filterMap Player.Event.command? = event.command?.toList := by
  cases event with
  | command => rfl
  | advance | oversleep | jump => simp [happening, Event.command?, List.filterMap_map]

/-- The commands that happen to the player are those among the events. -/
theorem filterMap_command?_happened (timeline : Timeline) (events : List Event) :
    (timeline.happened events).filterMap Player.Event.command? =
      events.filterMap Event.command? := by
  induction events generalizing timeline with
  | nil => rfl
  | cons event rest ih =>
      rw [happened, List.filterMap_append, filterMap_command?_happening, ih]
      cases asked : event.command? <;> simp [asked]

/-- Nothing that happens changes the periods. -/
theorem period_after (timeline : Timeline) (event : Event) (beat : Beat) :
    ((timeline.after event).pacer.metronomeOf beat).period =
      (timeline.pacer.metronomeOf beat).period := by
  by_cases passes : ∀ command, event ≠ .command command
  · rw [pacer_after passes, Pacer.period_catchUpAll]
  · cases event with
    | command command => exact timeline.pacer.period_handle command timeline.now beat
    | advance | oversleep | jump => exact absurd nofun passes

theorem period_afterAll (timeline : Timeline) (events : List Event) (beat : Beat) :
    ((timeline.afterAll events).pacer.metronomeOf beat).period =
      (timeline.pacer.metronomeOf beat).period := by
  induction events generalizing timeline with
  | nil => rfl
  | cons event rest ih => exact (ih (timeline.after event)).trans (timeline.period_after event beat)

end Timeline

end Chip8
