/-!
# Metronomes

A metronome has a beat due at a deadline, and the next one a period later. A beat that is consumed
too late drops what was missed in between. A metronome can be frozen; it then keeps the time that
was left until its beat.

Times are nanoseconds since a common origin, and instants are taken as representable: the sum of
an instant and a duration always exists here, while it fails where no clock can hold it
(`instantAfter?`). A clock holds instants up to `2 ^ 63` seconds after the origin, and no period
that settings ask for is longer than a second.
-/

namespace Chip8

/-- The lag behind its deadline up to which a metronome catches up beat by beat: a tenth of a
second. -/
def maxLag : Nat := 100000000

/-- What a metronome waits for. -/
inductive Metronome.Hand where
  | ticking (deadline : Nat)
  | frozen (remaining : Nat)
  deriving DecidableEq, Repr

/-- A deadline that recurs with a fixed period. -/
structure Metronome where
  period : Nat
  hand : Metronome.Hand
  period_pos : 0 < period
  deriving DecidableEq

namespace Metronome

/-- A metronome whose first beat is a period away. A period of zero counts as one nanosecond. -/
def start (period now : Nat) : Metronome where
  period := max period 1
  hand := .ticking (now + max period 1)
  period_pos := Nat.lt_of_lt_of_le Nat.zero_lt_one (Nat.le_max_right _ _)

/-- When the next beat is due, unless the metronome is frozen. -/
def deadline? (metronome : Metronome) : Option Nat :=
  match metronome.hand with
  | .ticking deadline => some deadline
  | .frozen _ => none

/-- The deadline of a beat that is due. -/
def due? (metronome : Metronome) (now : Nat) : Option Nat :=
  metronome.deadline?.filter (· ≤ now)

/-- Where the deadline moves when its beat is consumed. -/
def following (metronome : Metronome) (deadline now : Nat) : Nat :=
  if maxLag < now - deadline then now + metronome.period else deadline + metronome.period

/-- Consume the beat that is due. -/
def consume (metronome : Metronome) (now : Nat) : Metronome :=
  match metronome.due? now with
  | some deadline => { metronome with hand := .ticking (metronome.following deadline now) }
  | none => metronome

/-- Whether a beat is due, and the metronome behind that beat. -/
def poll (metronome : Metronome) (now : Nat) : Bool × Metronome :=
  ((metronome.due? now).isSome, metronome.consume now)

/-- Poll until no beat is due, at most `limit` times, and count the beats. -/
def drain (metronome : Metronome) (now : Nat) : Nat → Nat × Metronome
  | 0 => (0, metronome)
  | limit + 1 =>
      let (beat, next) := metronome.poll now
      if beat then
        let (beats, last) := next.drain now limit
        (beats + 1, last)
      else (0, next)

/-- Keep the time that is left until the beat. A frozen metronome stays as it is. -/
def freeze (metronome : Metronome) (now : Nat) : Metronome :=
  match metronome.hand with
  | .ticking deadline => { metronome with hand := .frozen (deadline - now) }
  | .frozen _ => metronome

/-- Go on with the time that was left. A metronome that is not frozen stays as it is. -/
def thaw (metronome : Metronome) (now : Nat) : Metronome :=
  match metronome.hand with
  | .ticking _ => metronome
  | .frozen remaining => { metronome with hand := .ticking (now + remaining) }

/-- Start over with a whole period. -/
def restart (metronome : Metronome) (now : Nat) : Metronome :=
  { metronome with hand := .ticking (now + metronome.period) }

/-- How far the deadline lies in the past, counted so that a beat due now counts as one. -/
def backlog (metronome : Metronome) (now : Nat) : Nat :=
  match metronome.deadline? with
  | some deadline => now + 1 - deadline
  | none => 0

@[simp] theorem period_consume (metronome : Metronome) (now : Nat) :
    (metronome.consume now).period = metronome.period := by
  simp only [consume]
  split <;> rfl

/-- A beat that is consumed leaves a later deadline. -/
theorem lt_following (metronome : Metronome) {deadline now : Nat} (due : deadline ≤ now) :
    deadline < metronome.following deadline now := by
  have := metronome.period_pos
  simp only [following]
  split <;> omega

/-- Consuming a beat that is due shortens the backlog. -/
theorem backlog_consume_lt {metronome : Metronome} {now deadline : Nat}
    (due : metronome.due? now = some deadline) :
    (metronome.consume now).backlog now < metronome.backlog now := by
  have reached : metronome.deadline? = some deadline ∧ deadline ≤ now := by
    simpa [due?, Option.filter_eq_some_iff] using due
  have later := metronome.lt_following reached.2
  simp only [consume, due, backlog, reached.1]
  simp only [deadline?]
  omega

end Metronome

end Chip8
