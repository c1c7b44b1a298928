import Chip8.Proofs.Metronome.Owed
import Chip8.Proofs.Pacer.Steps

/-!
# Working off a backlog

A wake-up is a loop that performs one beat after the other until none is due. `Pacer.Drains` is
that loop as a relation, one constructor for a round and one for the end, and
`Pacer.drains_iff` says that it always ends. Each round takes one beat off those that its metronome
owes, so that what is owed at the beginning bounds the rounds. Deadlines only move on, and so the
beats are performed in the order of their deadlines.
-/

namespace Chip8

/-- The order in which beats are performed that are due together: by deadline, the tick first if
both deadlines are equal. -/
def Beat.Precedes (first second : Beat × Nat) : Prop :=
  first.2 < second.2 ∨ first.2 = second.2 ∧ first.1 = .tick ∧ second.1 = .cycle

namespace Pacer

/-- The loop of a wake-up: as long as a beat is due, it is performed. The list holds the beats, each
with the deadline that it meets. -/
inductive Drains (now : Nat) : Pacer → List (Beat × Nat) → Pacer → Prop where
  | done {pacer : Pacer} (nothingDue : pacer.nextBeat? now = none) : Drains now pacer [] pacer
  | beat {pacer last : Pacer} {beat : Beat} {deadline : Nat} {others : List (Beat × Nat)}
      (next : pacer.nextBeat? now = some beat) (meets : pacer.deadlineOf? beat = some deadline)
      (rest : Drains now (pacer.perform now beat) others last) :
      Drains now pacer ((beat, deadline) :: others) last

variable {pacer : Pacer} {now deadline : Nat} {beat other : Beat} {entry : Beat × Nat}

/-- The loop of a wake-up ends, and there is only one way in which it can go. -/
theorem drains_iff {beats : List (Beat × Nat)} {last : Pacer} :
    Drains now pacer beats last ↔ beats = pacer.beats now ∧ last = pacer.drain now := by
  constructor
  · intro drains
    induction drains with
    | done nothingDue =>
        rw [beats_of_none nothingDue, drain]
        split
        · exact ⟨rfl, rfl⟩
        · simp_all
    | beat next meets rest ih =>
        obtain ⟨deadline, upcoming, due⟩ := nextBeat?_eq_some_iff.mp next
        obtain ⟨rfl, rfl⟩ := ih
        rw [deadlineOf?_eq, (of_upcoming? upcoming).2.1] at meets
        cases meets
        exact ⟨(beats_of_nextBeat? upcoming due).symm, (drain_of_nextBeat? next).symm⟩
  · rintro ⟨rfl, rfl⟩
    fun_induction drain pacer now with
    | case1 pacer nothingDue =>
        rw [beats_of_none nothingDue]
        exact .done nothingDue
    | case2 pacer beat next ih =>
        obtain ⟨deadline, upcoming, due⟩ := nextBeat?_eq_some_iff.mp next
        rw [beats_of_nextBeat? upcoming due]
        exact .beat next ((deadlineOf?_eq _ _).trans (of_upcoming? upcoming).2.1) ih

/-! ## How many beats -/

/-- The beats that are performed, together with those that are owed still, are the beats that were
owed at the beginning. -/
theorem count_beats_add_owed (pacer : Pacer) (now : Nat) (beat : Beat) :
    ((pacer.beats now).map (·.1)).count beat + ((pacer.drain now).metronomeOf beat).owed now =
      (pacer.metronomeOf beat).owed now := by
  fun_induction drain pacer now with
  | case1 pacer nothingDue =>
      rw [beats_of_none nothingDue, List.map_nil, List.count_nil, Nat.zero_add]
  | case2 pacer first next ih =>
      obtain ⟨deadline, upcoming, due⟩ := nextBeat?_eq_some_iff.mp next
      rw [beats_of_nextBeat? upcoming due, List.map_cons, List.count_cons]
      rw [metronomeOf_perform] at ih
      by_cases same : beat = first
      · subst same
        have ticking := (of_upcoming? upcoming).2.1
        have less := Metronome.owed_consume (Metronome.due?_eq_some_iff.mpr ⟨ticking, due⟩)
        rw [if_pos rfl] at ih
        rw [beq_self_eq_true, if_pos rfl]
        omega
      · rw [if_neg same] at ih
        have different : ¬(first == beat) = true := by simpa using Ne.symm same
        rw [if_neg different]
        omega

/-- However late a wake-up is, a metronome gives no more beats than the lag allows that is caught
up. -/
theorem count_beats_le (pacer : Pacer) (now : Nat) (beat : Beat) :
    ((pacer.beats now).map (·.1)).count beat ≤
      maxLag / (pacer.metronomeOf beat).period + 1 := by
  have total := pacer.count_beats_add_owed now beat
  have bound := (pacer.metronomeOf beat).owed_le now
  omega

/-! ## In which order -/

/-- Of the deadlines only that of the performed beat moves on. -/
theorem deadline?_perform {later : Nat}
    (ticking : (pacer.metronomeOf beat).deadline? = some deadline) (due : deadline ≤ now)
    (laterEq : ((pacer.perform now beat).metronomeOf other).deadline? = some later) :
    other = beat ∧ later = (pacer.metronomeOf beat).following deadline now ∨
      other ≠ beat ∧ (pacer.metronomeOf other).deadline? = some later := by
  rw [metronomeOf_perform] at laterEq
  split at laterEq
  case isTrue same =>
    subst same
    rw [Metronome.deadline?_consume ticking due] at laterEq
    exact .inl ⟨rfl, (Option.some.inj laterEq).symm⟩
  case isFalse different => exact .inr ⟨different, laterEq⟩

/-- What comes before all deadlines comes before all beats. -/
theorem precedes_of_mem_beats
    (first : ∀ other later, (pacer.metronomeOf other).deadline? = some later →
      Beat.Precedes entry (other, later)) :
    ∀ second ∈ pacer.beats now, Beat.Precedes entry second := by
  fun_induction drain pacer now with
  | case1 pacer nothingDue =>
      rw [beats_of_none nothingDue]
      exact fun _ mem => absurd mem List.not_mem_nil
  | case2 pacer beat next ih =>
      obtain ⟨deadline, upcoming, due⟩ := nextBeat?_eq_some_iff.mp next
      have ticking := (of_upcoming? upcoming).2.1
      rw [beats_of_nextBeat? upcoming due]
      refine List.forall_mem_cons.mpr ⟨first beat deadline ticking, ih fun other later laterEq => ?_⟩
      obtain ⟨rfl, rfl⟩ | ⟨-, kept⟩ := deadline?_perform ticking due laterEq
      · have moved := (pacer.metronomeOf other).lt_following due
        have before := first other deadline ticking
        simp only [Beat.Precedes] at before ⊢
        omega
      · exact first other later kept

/-- Beats are performed in the order of their deadlines, the tick first if two are equal. -/
theorem pairwise_beats (pacer : Pacer) (now : Nat) :
    (pacer.beats now).Pairwise Beat.Precedes := by
  fun_induction drain pacer now with
  | case1 pacer nothingDue =>
      rw [beats_of_none nothingDue]
      exact .nil
  | case2 pacer beat next ih =>
      obtain ⟨deadline, upcoming, due⟩ := nextBeat?_eq_some_iff.mp next
      obtain ⟨-, ticking, earliest⟩ := of_upcoming? upcoming
      rw [beats_of_nextBeat? upcoming due]
      refine .cons (precedes_of_mem_beats fun other later laterEq => ?_) ih
      obtain ⟨rfl, rfl⟩ | ⟨different, kept⟩ := deadline?_perform ticking due laterEq
      · exact .inl ((pacer.metronomeOf other).lt_following due)
      · -- The next beat has the earliest deadline, and only a tick may share it with the other.
        obtain ⟨order, strict⟩ := earliest other later kept
        cases beat with
        | cycle =>
            cases other with
            | cycle => exact absurd rfl different
            | tick => exact .inl (strict rfl rfl)
        | tick =>
            cases other with
            | cycle => exact (Nat.lt_or_eq_of_le order).imp_right fun tie => ⟨tie, rfl, rfl⟩
            | tick => exact absurd rfl different

/-! ## What is left -/

/-- A deadline that a wake-up has moved is at most a period away. -/
theorem deadline?_drain {later : Nat}
    (ticking : ((pacer.drain now).metronomeOf beat).deadline? = some later) :
    (pacer.metronomeOf beat).deadline? = some later ∨
      later ≤ now + (pacer.metronomeOf beat).period := by
  fun_induction drain pacer now with
  | case1 pacer nothingDue => exact .inl ticking
  | case2 pacer first next ih =>
      obtain ⟨deadline, upcoming, due⟩ := nextBeat?_eq_some_iff.mp next
      have before := (of_upcoming? upcoming).2.1
      rcases ih ticking with same | near
      · obtain ⟨rfl, rfl⟩ | ⟨-, kept⟩ := deadline?_perform before due same
        · exact .inr ((pacer.metronomeOf beat).following_le due)
        · exact .inl kept
      · rw [period_perform] at near
        exact .inr near

/-- A beat lets a run go on, or a fault halts it. -/
theorem state_perform (running : pacer.player.state = .running) (now : Nat) (beat : Beat) :
    (pacer.perform now beat).player.state = .running ∨
      ∃ fault, (pacer.perform now beat).player.state = .halted fault := by
  rw [player_perform]
  cases beat with
  | tick => exact .inl ((Player.state_tick pacer.player).trans running)
  | cycle =>
      rcases pacer.player.cycle_cases with
        same | ⟨_, _, _, _, -, ⟨fault, -, halts⟩ | ⟨_, -, moves⟩⟩
      · exact .inl ((congrArg Player.state same).trans running)
      · exact .inr ⟨fault, congrArg Player.state halts⟩
      · exact .inl (congrArg Player.state moves)

/-- A wake-up lets a run go on, or a fault halts it. -/
theorem state_drain (running : pacer.player.state = .running) (now : Nat) :
    (pacer.drain now).player.state = .running ∨
      ∃ fault, (pacer.drain now).player.state = .halted fault := by
  fun_induction drain pacer now with
  | case1 pacer nothingDue => exact .inl running
  | case2 pacer beat next ih =>
      rcases state_perform running now beat with goesOn | ⟨fault, halted⟩
      · exact ih goesOn
      · have stopped : (pacer.perform now beat).player.state ≠ .running := by
          simp only [halted, ne_eq, reduceCtorEq, not_false_eq_true]
        rw [drain_of_not_running stopped]
        exact .inr ⟨fault, halted⟩

/-- A run that goes on has no deadline left that is not in the future. -/
theorem lt_deadline?_drain {later : Nat} (goesOn : (pacer.drain now).player.state = .running)
    (ticking : ((pacer.drain now).metronomeOf beat).deadline? = some later) : now < later := by
  obtain ⟨earliest, next, first⟩ := exists_deadline?_le goesOn ticking
  exact Nat.lt_of_lt_of_le (nextBeat?_eq_none_iff.mp (nextBeat?_drain pacer now) earliest next) first

end Pacer

end Chip8
