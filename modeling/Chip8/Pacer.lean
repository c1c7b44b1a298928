import Chip8.Metronome
import Chip8.Player.Command

/-!
# Pacers

A pacer moves a player on at the beats of two metronomes, one for instruction cycles and one for
timer ticks, and freezes both while the player is not running. `Pacer.catchUp` performs every beat
that is due, earliest first, the timer first if both are due at the same time;
`Pacer.lt_of_deadline_catchUp` says that it leaves no beat due.
-/

namespace Chip8

/-- What a beat of one of the metronomes is for. -/
inductive Beat where
  | cycle
  | tick
  deriving DecidableEq, Repr

/-- A player and the metronomes that move it on. -/
structure Pacer where
  player : Player
  cycles : Metronome
  ticks : Metronome

namespace Pacer

/-- A pacer made at some time. Its metronomes start at once, although nothing is running yet. -/
def start (settings : Settings) (now : Nat) : Pacer where
  player := .ofSettings settings
  cycles := .start settings.instructionPeriod now
  ticks := .start settings.timerPeriod now

/-- When something is to be done next, if the player is running. -/
def deadline? (pacer : Pacer) : Option Nat :=
  match pacer.player.state with
  | .running =>
      match pacer.cycles.deadline?, pacer.ticks.deadline? with
      | some cycle, some tick => some (min cycle tick)
      | some cycle, none => some cycle
      | none, tick => tick
  | _ => none

/-- Keep the metronomes in step with a change of the run state: a paused run goes on with the time
that was left, any other run starts with whole periods, and a run that ends or pauses freezes
them. -/
def followChange (pacer : Pacer) (before : RunState) (now : Nat) : Pacer :=
  match before, pacer.player.state with
  | .running, .running => pacer
  | .paused, .running =>
      { pacer with cycles := pacer.cycles.thaw now, ticks := pacer.ticks.thaw now }
  | _, .running =>
      { pacer with cycles := pacer.cycles.restart now, ticks := pacer.ticks.restart now }
  | .running, _ =>
      { pacer with cycles := pacer.cycles.freeze now, ticks := pacer.ticks.freeze now }
  | _, _ => pacer

/-- The reply to a command at some time, and the pacer after it. -/
def handle (pacer : Pacer) (command : Command) (now : Nat) : Reply × Pacer :=
  let before := pacer.player.state
  let (reply, player) := pacer.player.handle command
  let after := { pacer with player }
  match reply with
  | .goodbye => (reply, after)
  | _ => (reply, after.followChange before now)

/-- The beat that is to be performed first of those due, if the player is running. -/
def nextBeat? (pacer : Pacer) (now : Nat) : Option Beat :=
  match pacer.player.state with
  | .running =>
      match pacer.cycles.due? now, pacer.ticks.due? now with
      | some cycle, some tick => if tick ≤ cycle then some .tick else some .cycle
      | some _, none => some .cycle
      | none, some _ => some .tick
      | none, none => none
  | _ => none

/-- Consume a beat that is due and move the player on. -/
def perform (pacer : Pacer) (now : Nat) (beat : Beat) : Pacer :=
  match pacer, beat with
  | ⟨player, cycles, ticks⟩, .cycle => ⟨player.cycle, cycles.consume now, ticks⟩
  | ⟨player, cycles, ticks⟩, .tick => ⟨player.tick, cycles, ticks.consume now⟩

/-- How far both metronomes are behind. -/
def backlog (pacer : Pacer) (now : Nat) : Nat :=
  pacer.cycles.backlog now + pacer.ticks.backlog now

/-- Performing the beat that is to be performed first shortens the backlog. -/
theorem backlog_perform_lt {pacer : Pacer} {now : Nat} {beat : Beat}
    (next : pacer.nextBeat? now = some beat) :
    (pacer.perform now beat).backlog now < pacer.backlog now := by
  cases pacer with | mk player cycles ticks =>
  simp only [nextBeat?] at next
  split at next
  · split at next
    · rename_i cycle tick cycleDue tickDue
      have := Metronome.backlog_consume_lt cycleDue
      have := Metronome.backlog_consume_lt tickDue
      split at next <;> cases next <;> simp only [perform, backlog] <;> omega
    · rename_i cycle cycleDue tickDue
      have := Metronome.backlog_consume_lt cycleDue
      cases next
      simp only [perform, backlog]
      omega
    · rename_i tick cycleDue tickDue
      have := Metronome.backlog_consume_lt tickDue
      cases next
      simp only [perform, backlog]
      omega
    · cases next
  · cases next

/-- Perform the beats that are due until none is left or the player stops running. -/
def drain (pacer : Pacer) (now : Nat) : Pacer :=
  match _next : pacer.nextBeat? now with
  | none => pacer
  | some beat => (pacer.perform now beat).drain now
termination_by pacer.backlog now
decreasing_by exact backlog_perform_lt ‹_›

/-- Perform every beat that is due. If a fault halts the run on the way, the metronomes are
frozen. -/
def catchUp (pacer : Pacer) (now : Nat) : Pacer :=
  let before := pacer.player.state
  (pacer.drain now).followChange before now

/-- Draining leaves no beat to be performed. -/
theorem nextBeat?_drain (pacer : Pacer) (now : Nat) : (pacer.drain now).nextBeat? now = none := by
  fun_induction drain pacer now with
  | case1 pacer none => exact none
  | case2 pacer beat next ih => exact ih

/-- A player that is not running does not start running by performing beats. -/
theorem drain_of_not_running {pacer : Pacer} {now : Nat}
    (resting : pacer.player.state ≠ .running) : pacer.drain now = pacer := by
  have noBeat : pacer.nextBeat? now = none := by
    cases stateEq : pacer.player.state <;> simp_all [nextBeat?]
  rw [drain]
  split
  · rfl
  · simp_all

/-- If no beat is due, the next deadline lies in the future. -/
theorem lt_of_deadline_of_nextBeat? {pacer : Pacer} {now deadline : Nat}
    (noBeat : pacer.nextBeat? now = none) (next : pacer.deadline? = some deadline) :
    now < deadline := by
  simp only [nextBeat?, deadline?, Metronome.due?] at noBeat next
  split at next
  · rename_i running
    simp only [running] at noBeat
    cases cyclesEq : pacer.cycles.deadline? <;> cases ticksEq : pacer.ticks.deadline? <;>
      simp only [cyclesEq, ticksEq, Option.filter_some, Option.filter_none] at noBeat next
    · cases next
    · cases next
      split at noBeat <;> simp_all
    · cases next
      split at noBeat <;> simp_all
    · rename_i cycle tick
      cases next
      by_cases cycleDue : cycle ≤ now <;> by_cases tickDue : tick ≤ now
      · simp [cycleDue, tickDue] at noBeat
        split at noBeat <;> cases noBeat
      · simp [cycleDue, tickDue] at noBeat
      · simp [cycleDue, tickDue] at noBeat
      · omega
  · cases next

/-- Catching up leaves no beat due. -/
theorem lt_of_deadline_catchUp {pacer : Pacer} {now deadline : Nat}
    (running : pacer.player.state = .running)
    (next : (pacer.catchUp now).deadline? = some deadline) : now < deadline := by
  have followed : (pacer.catchUp now).player = (pacer.drain now).player := by
    simp only [catchUp, followChange]
    split <;> rfl
  simp only [catchUp, running] at next followed
  cases stateEq : (pacer.drain now).player.state with
  | running =>
      simp only [followChange, stateEq] at next
      exact lt_of_deadline_of_nextBeat? (nextBeat?_drain pacer now) next
  | idle | paused | halted =>
      simp only [deadline?, followed, stateEq] at next
      cases next

/-- Only a running player has something to do. -/
theorem running_of_deadline? {pacer : Pacer} {deadline : Nat}
    (next : pacer.deadline? = some deadline) : pacer.player.state = .running := by
  simp only [deadline?] at next
  split at next
  · assumption
  · cases next

end Pacer

end Chip8
