import Chip8.Player.Channels
import Chip8.Metronome

/-!
# The pace of a metronome

`Metronome.OnPace` relates the beats that a metronome has given since some start to the time for
which it has been ticking since: the beats together with the one it waits for take at least their
periods. A late beat and a late freeze lose time and never gain any; if there was none, nothing is
lost either. What every operation does to the pace is shown here once, for both metronomes of a
pacer.
-/

namespace Chip8

namespace Metronome

/-- What becomes of a metronome when the run state changes. -/
def follow (metronome : Metronome) (before after : RunState) (now : Nat) : Metronome :=
  match before, after with
  | .running, .running => metronome
  | .paused, .running => metronome.thaw now
  | _, .running => metronome.restart now
  | .running, _ => metronome.freeze now
  | _, _ => metronome

/-- The time that is left until the beat, negative if the beat is overdue. -/
def left (metronome : Metronome) (now : Nat) : Int :=
  match metronome.hand with
  | .ticking deadline => deadline - now
  | .frozen remaining => remaining

/-- A metronome that has given some beats while it was ticking for some time. It was not faster
than its period allows; if it was always punctual, it was not slower either. -/
structure OnPace (metronome : Metronome) (now active beats : Nat) (punctual : Prop) : Prop where
  bound : ↑(beats * metronome.period) + metronome.period ≤ metronome.left now + active
  left_le : metronome.left now ≤ metronome.period
  exact : punctual → 0 ≤ metronome.left now ∧
    ↑(beats * metronome.period) + metronome.period = metronome.left now + active

variable {metronome : Metronome} {now early late deadline active beats : Nat}
  {punctual punctual' : Prop}

theorem due?_eq_some_iff :
    metronome.due? now = some deadline ↔ metronome.deadline? = some deadline ∧ deadline ≤ now := by
  simp [due?, Option.filter_eq_some_iff]

theorem consume_of_due (next : metronome.deadline? = some deadline) (due : deadline ≤ now) :
    metronome.consume now =
      { metronome with hand := .ticking (metronome.following deadline now) } := by
  simp only [consume, due?_eq_some_iff.mpr ⟨next, due⟩]

/-- A metronome that drops nothing goes on a period later. -/
theorem following_of_withinLag (inTime : now - deadline ≤ maxLag) :
    metronome.following deadline now = deadline + metronome.period := by
  rw [following, if_neg (Nat.not_lt.mpr inTime)]

theorem left_of_deadline? (ticking : metronome.deadline? = some deadline) :
    metronome.left now = deadline - now := by
  obtain ⟨period, ticking | remaining, _⟩ := metronome <;> cases ticking
  rfl

/-- The time that is left does not change while a metronome is frozen. -/
theorem left_of_frozen (frozen : metronome.deadline? = none) :
    metronome.left early = metronome.left late := by
  obtain ⟨period, ticking | remaining, _⟩ := metronome <;> cases frozen
  rfl

@[simp] theorem period_follow (metronome : Metronome) (before after : RunState) (now : Nat) :
    (metronome.follow before after now).period = metronome.period := by
  obtain ⟨period, deadline | remaining, _⟩ := metronome <;>
    cases before <;> cases after <;> rfl

/-- A run that stops running leaves its metronomes without a deadline. -/
theorem deadline?_follow {after : RunState} (stopped : after ≠ .running) :
    (metronome.follow .running after now).deadline? = none := by
  obtain ⟨period, deadline | remaining, _⟩ := metronome <;>
    cases after <;> first | rfl | exact absurd rfl stopped

@[simp] theorem left_restart (metronome : Metronome) (now : Nat) :
    (metronome.restart now).left now = metronome.period := by
  simp only [restart, left]
  omega

/-- A metronome that ticks exactly while the run is running still does so when the run state
changes. -/
theorem ticking_follow_iff {before after : RunState}
    (ticking_iff : (∃ deadline, metronome.deadline? = some deadline) ↔ before = .running)
    (goesOn : after = .running → before = .running ∨ before = .paused) :
    (∃ deadline, (metronome.follow before after now).deadline? = some deadline) ↔
      after = .running := by
  obtain ⟨period, deadline | remaining, _⟩ := metronome <;> cases before <;> cases after <;>
    simp_all [follow, freeze, thaw, deadline?]

/-- A beat that is not due does not become due when the run state changes. -/
theorem left_follow_pos {before after : RunState} (ahead : 0 < metronome.left now) :
    0 < (metronome.follow before after now).left now := by
  have positive := metronome.period_pos
  obtain ⟨period, deadline | remaining, _⟩ := metronome <;> simp only [left] at ahead <;>
    cases before <;> cases after <;> simp only [follow, freeze, thaw, restart, left] <;> omega

namespace OnPace

/-- The pace is a matter of the period and of the time that is left. -/
theorem congr {other : Metronome} (onPace : metronome.OnPace early active beats punctual)
    (period : other.period = metronome.period) (left : other.left late = metronome.left early)
    (still : punctual' → punctual) : other.OnPace late active beats punctual' := by
  obtain ⟨bound, left_le, exact⟩ := onPace
  constructor <;> rw [period, left]
  · exact bound
  · exact left_le
  · exact fun holds => exact (still holds)

/-- A metronome keeps its pace while it is ticking, and is punctual as long as its deadline has not
passed. -/
theorem pass (onPace : metronome.OnPace early active beats punctual)
    (ticking : metronome.deadline? = some deadline) (ordered : early ≤ late)
    (inTime : punctual' → punctual ∧ late ≤ deadline) :
    metronome.OnPace late (active + (late - early)) beats punctual' := by
  obtain ⟨bound, left_le, exact⟩ := onPace
  rw [left_of_deadline? ticking] at bound left_le exact
  constructor <;> rw [left_of_deadline? ticking]
  · omega
  · omega
  · intro still
    obtain ⟨was, reached⟩ := inTime still
    have := exact was
    omega

/-- A beat counts, and the next one comes a period later, or later still if time was dropped. -/
theorem consume (onPace : metronome.OnPace now active beats punctual)
    (ticking : metronome.deadline? = some deadline) (due : deadline ≤ now) :
    (metronome.consume now).OnPace now active (beats + 1) punctual := by
  obtain ⟨bound, left_le, exact⟩ := onPace
  rw [left_of_deadline? ticking] at bound exact
  have following : metronome.following deadline now ≤ now + metronome.period ∧
      deadline + metronome.period ≤ metronome.following deadline now ∧
      (now ≤ deadline → metronome.following deadline now = deadline + metronome.period) := by
    simp only [Metronome.following]
    split <;> omega
  rw [consume_of_due ticking due]
  constructor <;> simp only [left, Nat.add_one_mul]
  · omega
  · omega
  · intro still
    have := exact still
    omega

/-- A beat that is consumed in time leaves none due. -/
theorem left_consume_pos (onPace : metronome.OnPace now active beats punctual) (holds : punctual)
    (ticking : metronome.deadline? = some deadline) (due : deadline ≤ now) :
    0 < (metronome.consume now).left now := by
  have before := (onPace.exact holds).2
  have behind := ((onPace.consume ticking due).exact holds).2
  have positive := metronome.period_pos
  have inTime := (onPace.exact holds).1
  rw [period_consume, Nat.add_one_mul] at behind
  omega

/-- Freezing keeps the time that is left, and loses what is overdue. -/
theorem freeze (onPace : metronome.OnPace now active beats punctual) :
    (metronome.freeze now).OnPace now active beats punctual := by
  obtain ⟨period, deadline | remaining, _⟩ := metronome
  · obtain ⟨bound, left_le, exact⟩ := onPace
    dsimp only [left] at bound left_le exact
    constructor <;> dsimp only [Metronome.freeze, left]
    · omega
    · omega
    · intro still
      have := exact still
      omega
  · exact onPace

/-- Thawing keeps the time that is left. -/
theorem thaw (onPace : metronome.OnPace now active beats punctual) :
    (metronome.thaw now).OnPace now active beats punctual := by
  obtain ⟨period, deadline | remaining, _⟩ := metronome
  · exact onPace
  · refine onPace.congr rfl ?_ id
    simp only [Metronome.thaw, left]
    omega

/-- A restart is the beginning of a pace. -/
theorem restart : (metronome.restart now).OnPace now 0 0 punctual := by
  constructor <;> simp only [Metronome.restart, left] <;> omega

/-- A run that goes on, pauses, is resumed or ends keeps the pace. -/
theorem follow {before after : RunState} (onPace : metronome.OnPace now active beats punctual)
    (goesOn : after = .running → before = .running ∨ before = .paused) :
    (metronome.follow before after now).OnPace now active beats punctual := by
  cases before <;> cases after <;>
    first
      | exact onPace
      | exact onPace.freeze
      | exact onPace.thaw
      | simp at goesOn

/-- A metronome on pace has given no more beats than fit into its time, and if it was punctual and
no beat is due, all that fit. -/
theorem total (onPace : metronome.OnPace now active beats punctual) :
    beats * metronome.period ≤ active ∧
      (punctual → 0 < metronome.left now → beats = active / metronome.period) := by
  obtain ⟨bound, left_le, exact⟩ := onPace
  refine ⟨by omega, fun holds ahead => ?_⟩
  obtain ⟨-, same⟩ := exact holds
  refine (Nat.div_eq_of_lt_le ?_ ?_).symm
  · omega
  · rw [Nat.add_one_mul]
    omega

end OnPace

end Metronome

end Chip8
