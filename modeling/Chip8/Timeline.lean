import Chip8.Pacer

/-!
# Timelines

A pacer under a clock that moves on request only. Time can pass with the pacer woken at each of its
deadlines, with a single late wake-up at the end, or with no wake-up at all. Times are nanoseconds
since the pacer was made.
-/

namespace Chip8

namespace Pacer

/-- Wake a pacer at each of its deadlines up to and including `finish`, never before `now`. -/
def runUntil (pacer : Pacer) (now finish : Nat) : Pacer :=
  match _next : pacer.deadline? with
  | none => pacer
  | some deadline =>
      if _reached : deadline ≤ finish then
        (pacer.catchUp (max now deadline)).runUntil (max now deadline) finish
      else pacer
termination_by finish + 1 - pacer.deadline?.getD (finish + 1)
decreasing_by
  have running := running_of_deadline? ‹_›
  simp only [_next, Option.getD_some]
  cases after : (pacer.catchUp (max now deadline)).deadline? with
  | none => simp only [Option.getD_none]; omega
  | some later =>
      have := lt_of_deadline_catchUp running after
      simp only [Option.getD_some]
      omega

end Pacer

/-- A pacer and the present time. -/
structure Timeline where
  pacer : Pacer
  now : Nat

namespace Timeline

/-- A pacer made at time zero. -/
def start (settings : Settings) : Timeline := ⟨.start settings 0, 0⟩

/-- Time passes, and the pacer is woken at each of its deadlines. -/
def advance (timeline : Timeline) (duration : Nat) : Timeline :=
  match timeline with
  | ⟨pacer, now⟩ => ⟨pacer.runUntil now (now + duration), now + duration⟩

/-- Time passes, and the pacer is woken once at the end. -/
def oversleep (timeline : Timeline) (duration : Nat) : Timeline :=
  match timeline with
  | ⟨pacer, now⟩ => ⟨pacer.catchUp (now + duration), now + duration⟩

/-- Time passes, and the pacer is not woken. -/
def jump (timeline : Timeline) (duration : Nat) : Timeline :=
  { timeline with now := timeline.now + duration }

/-- The reply to a command at the present time. -/
def handle (timeline : Timeline) (command : Command) : Reply × Timeline :=
  let (reply, pacer) := timeline.pacer.handle command timeline.now
  (reply, { timeline with pacer })

end Timeline

end Chip8
