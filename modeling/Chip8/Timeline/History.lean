import Chip8.Player.History
import Chip8.Timeline

/-!
# Histories of a timeline

Everything that can happen to a pacer under its clock, as values, and the beats it performs
meanwhile, each with the deadline that it meets.
-/

namespace Chip8

namespace Pacer

/-- The deadline of the metronome that gives a beat. -/
def deadlineOf? (pacer : Pacer) : Beat → Option Nat
  | .cycle => pacer.cycles.deadline?
  | .tick => pacer.ticks.deadline?

/-- The beats that draining performs, in order, each with its deadline. -/
def beats (pacer : Pacer) (now : Nat) : List (Beat × Nat) :=
  match _next : pacer.nextBeat? now with
  | none => []
  | some beat =>
      (beat, (pacer.deadlineOf? beat).getD now) :: (pacer.perform now beat).beats now
termination_by pacer.backlog now
decreasing_by exact backlog_perform_lt ‹_›

/-- Draining performs the listed beats, one after the other. -/
theorem drain_eq_foldl_beats (pacer : Pacer) (now : Nat) :
    pacer.drain now =
      (pacer.beats now).foldl (fun current beat => current.perform now beat.1) pacer := by
  fun_induction drain pacer now with
  | case1 pacer none =>
      rw [beats]
      split
      · rfl
      · simp_all
  | case2 pacer beat next ih =>
      rw [beats]
      split
      · simp_all
      · rename_i other otherNext
        cases next.symm.trans otherNext
        exact ih

end Pacer

namespace Timeline

/-- Something that happens on a timeline. -/
inductive Event where
  | command (command : Command)
  /-- Time passes with a wake-up at each deadline. -/
  | advance (duration : Nat)
  /-- Time passes with a single wake-up at the end. -/
  | oversleep (duration : Nat)
  /-- Time passes without a wake-up. -/
  | jump (duration : Nat)

/-- The timeline behind an event. -/
def after (timeline : Timeline) : Event → Timeline
  | .command command => (timeline.handle command).2
  | .advance duration => timeline.advance duration
  | .oversleep duration => timeline.oversleep duration
  | .jump duration => timeline.jump duration

/-- The timeline behind a list of events, the first of which happens first. -/
def afterAll (timeline : Timeline) : List Event → Timeline
  | [] => timeline
  | event :: rest => (timeline.after event).afterAll rest

/-- The stored state that an event asks to load, if it does. -/
def Event.loaded? : Event → Option SaveState
  | .command (.load stored) => some stored
  | _ => none

/-- The timelines that come about from any settings. A stored state comes from a player that
comes about somewhere. -/
inductive Reachable : Timeline → Prop where
  | fresh (settings : Settings) : Reachable (.start settings)
  | after {timeline : Timeline} {event : Event} :
      (∀ stored, event.loaded? = some stored →
        ∃ source : Player, source.Reachable ∧ source.save = .ok stored) →
      Reachable timeline → Reachable (timeline.after event)

@[simp] theorem afterAll_append (timeline : Timeline) (first second : List Event) :
    timeline.afterAll (first ++ second) = (timeline.afterAll first).afterAll second := by
  induction first generalizing timeline with
  | nil => rfl
  | cons event rest ih => exact ih (timeline.after event)

end Timeline

end Chip8
