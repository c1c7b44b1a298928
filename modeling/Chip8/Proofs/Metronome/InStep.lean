import Chip8.Proofs.Metronome.Pace

/-!
# Metronomes in step

Two metronomes that are looked at at different times are in step if they have the same period and
the same time left until the beat, and both tick or both are frozen. What is done to both of them
after the same time keeps them in step, so where on its clock a metronome was started makes no
difference.
-/

namespace Chip8.Metronome

/-- Two metronomes, each at a time of its own, that will do the same from then on. -/
structure InStep (first : Metronome) (now : Nat) (second : Metronome) (now' : Nat) : Prop where
  period : first.period = second.period
  ticking : first.deadline?.isSome = second.deadline?.isSome
  left : first.left now = second.left now'

variable {first second : Metronome} {now now' : Nat}

namespace InStep

/-- Two metronomes in step tick with as much time left, or are frozen with as much time left. -/
theorem cases (inStep : first.InStep now second now') :
    (∃ deadline deadline', first.hand = .ticking deadline ∧ second.hand = .ticking deadline' ∧
        deadline + now' = deadline' + now) ∨
      ∃ remaining, first.hand = .frozen remaining ∧ second.hand = .frozen remaining := by
  obtain ⟨-, ticking, left⟩ := inStep
  obtain ⟨_, deadline | remaining, _⟩ := first <;>
    obtain ⟨_, deadline' | remaining', _⟩ := second <;>
      simp only [deadline?, Metronome.left] at ticking left
  · exact .inl ⟨deadline, deadline', rfl, rfl, by omega⟩
  · cases ticking
  · cases ticking
  · cases Int.ofNat_inj.mp left
    exact .inr ⟨remaining, rfl, rfl⟩

/-- Metronomes with the same period that both start over are in step. -/
theorem restart (period : first.period = second.period) (now now' : Nat) :
    (first.restart now).InStep now (second.restart now') now' where
  period := period
  ticking := rfl
  left := by rw [left_restart, left_restart, period]

/-- As long as nothing is done to them, metronomes stay in step. -/
theorem later_iff (span : Nat) :
    first.InStep (now + span) second (now' + span) ↔ first.InStep now second now' := by
  obtain ⟨_, deadline | remaining, _⟩ := first <;>
    obtain ⟨_, deadline' | remaining', _⟩ := second <;>
      constructor <;> rintro ⟨period, ticking, left⟩ <;> refine ⟨period, ticking, ?_⟩ <;>
        simp only [deadline?, Option.isSome_some, Option.isSome_none, Bool.true_eq_false,
          Bool.false_eq_true, Metronome.left] at ticking left ⊢ <;>
        omega

/-- Beats of metronomes in step are due together, and as much overdue. -/
theorem due?_eq (inStep : first.InStep now second now') :
    (first.due? now).map (now - ·) = (second.due? now').map (now' - ·) := by
  rcases inStep.cases with ⟨deadline, deadline', ticks, ticks', same⟩ | ⟨_, frozen, frozen'⟩
  · have together : deadline ≤ now ↔ deadline' ≤ now' := by omega
    simp only [due?, deadline?, ticks, ticks', Option.filter_some, decide_eq_true_eq, together]
    split
    · simp only [Option.map_some, Option.some.injEq]
      omega
    · rfl
  · simp only [due?, deadline?, frozen, frozen']
    rfl

/-- A beat that is consumed on both sides leaves them in step, whether time is dropped or not. -/
theorem consume (inStep : first.InStep now second now') :
    (first.consume now).InStep now (second.consume now') now' := by
  have together := inStep.due?_eq
  cases due : first.due? now with
  | none =>
      rw [due] at together
      have noBeat : second.due? now' = none := Option.map_eq_none_iff.mp together.symm
      simp only [Metronome.consume, due, noBeat]
      exact inStep
  | some deadline =>
      rw [due] at together
      obtain ⟨deadline', due', late⟩ : ∃ deadline', second.due? now' = some deadline' ∧
          now' - deadline' = now - deadline := Option.map_eq_some_iff.mp together.symm
      have reached := (due?_eq_some_iff.mp due).2
      have reached' := (due?_eq_some_iff.mp due').2
      simp only [Metronome.consume, due, due']
      refine ⟨inStep.period, rfl, ?_⟩
      simp only [Metronome.left, following, late, inStep.period]
      split <;> omega

theorem freeze (inStep : first.InStep now second now') :
    (first.freeze now).InStep now (second.freeze now') now' := by
  rcases inStep.cases with ⟨deadline, deadline', ticks, ticks', same⟩ | ⟨_, frozen, frozen'⟩
  · simp only [Metronome.freeze, ticks, ticks']
    refine ⟨inStep.period, rfl, ?_⟩
    simp only [Metronome.left]
    omega
  · simp only [Metronome.freeze, frozen, frozen']
    exact inStep

theorem thaw (inStep : first.InStep now second now') :
    (first.thaw now).InStep now (second.thaw now') now' := by
  rcases inStep.cases with ⟨deadline, deadline', ticks, ticks', same⟩ | ⟨_, frozen, frozen'⟩
  · simp only [Metronome.thaw, ticks, ticks']
    exact inStep
  · simp only [Metronome.thaw, frozen, frozen']
    refine ⟨inStep.period, rfl, ?_⟩
    simp only [Metronome.left]
    omega

/-- Metronomes that follow the same change of the run state stay in step. -/
theorem follow (inStep : first.InStep now second now') (before after : RunState) :
    (first.follow before after now).InStep now (second.follow before after now') now' := by
  cases before <;> cases after <;>
    first
      | exact inStep
      | exact inStep.freeze
      | exact inStep.thaw
      | exact restart inStep.period now now'

end InStep

end Chip8.Metronome
