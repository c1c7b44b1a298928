import Chip8.Proofs.Metronome.Owed
import Chip8.Proofs.Timeline.WakeUps

/-!
# Metronomes in lockstep with the run state

Nothing moves the metronomes of a pacer but the changes of its run state, and a fault may change it
in the middle of a wake-up. Whatever happens, both metronomes tick while the run is running, and
both are frozen while it is not, with two exceptions in which there is no run: before the first
start both tick, and a pacer that is shut down leaves them as they are. `Pacer.Lockstep` is what
every event keeps, and `Timeline.lockstep` says what follows from it for a whole history.
-/

namespace Chip8

/-- A metronome that ticks while the run is running, and may have been left ticking while there is
none, follows a change of the run state: afterwards it ticks if the run is running, or if it was
left ticking and still is. -/
theorem Metronome.isSome_deadline?_follow_iff {metronome : Metronome} {before after : RunState}
    {leftTicking : Prop} {now : Nat}
    (ticking_iff : metronome.deadline?.isSome = true ↔ before = .running ∨ leftTicking)
    (idle : leftTicking → before = .idle) :
    (metronome.follow before after now).deadline?.isSome = true ↔
      after = .running ∨ leftTicking ∧ after ≠ .running := by
  obtain ⟨period, deadline | remaining, _⟩ := metronome <;>
    cases before <;> cases after <;> simp_all [follow, freeze, thaw, restart, deadline?]

namespace Pacer

/-- Both metronomes of a pacer tick while the run is running and are frozen while it is not, unless
there is no run and they were left ticking. -/
structure Lockstep (pacer : Pacer) (leftTicking : Prop) : Prop where
  ticking_iff : ∀ beat, (pacer.metronomeOf beat).deadline?.isSome = true ↔
    pacer.player.state = .running ∨ leftTicking
  idle : leftTicking → pacer.player.state = .idle

variable {pacer : Pacer} {leftTicking : Prop} {now : Nat}

/-- A pacer begins with both metronomes ticking. -/
theorem lockstep_start (settings : Settings) (now : Nat) : (start settings now).Lockstep True where
  ticking_iff := fun beat => by cases beat <;> exact iff_of_true rfl (.inr trivial)
  idle := fun _ => rfl

@[simp] theorem isSome_deadline?_drain (pacer : Pacer) (now : Nat) (beat : Beat) :
    ((pacer.drain now).metronomeOf beat).deadline?.isSome =
      (pacer.metronomeOf beat).deadline?.isSome := by
  fun_induction drain pacer now with
  | case1 pacer none => rfl
  | case2 pacer other next ih =>
      rw [ih, metronomeOf_perform]
      split <;> simp

namespace Lockstep

/-- The metronomes of a run that is not running and was not left ticking are frozen. -/
theorem frozen (lockstep : pacer.Lockstep leftTicking) (resting : pacer.player.state ≠ .running)
    (notLeft : ¬leftTicking) (beat : Beat) : (pacer.metronomeOf beat).deadline? = none := by
  rw [← Option.not_isSome_iff_eq_none, lockstep.ticking_iff beat]
  exact not_or.mpr ⟨resting, notLeft⟩

/-- A wake-up keeps the metronomes in lockstep, also if a fault halts the run on the way. -/
theorem catchUp (lockstep : pacer.Lockstep leftTicking) (now : Nat) :
    (pacer.catchUp now).Lockstep leftTicking := by
  by_cases running : pacer.player.state = .running
  · have notLeft : ¬leftTicking := fun left => by cases running.symm.trans (lockstep.idle left)
    refine ⟨fun beat => ?_, fun left => absurd left notLeft⟩
    rw [Pacer.catchUp, metronomeOf_followChange, player_followChange,
      Metronome.isSome_deadline?_follow_iff _ lockstep.idle]
    · simp [notLeft]
    · rw [isSome_deadline?_drain, lockstep.ticking_iff]
  · rwa [catchUp_of_not_running running]

theorem catchUpAll (lockstep : pacer.Lockstep leftTicking) (times : List Nat) :
    (pacer.catchUpAll times).Lockstep leftTicking := by
  induction times generalizing pacer with
  | nil => exact lockstep
  | cons time rest ih => exact ih (lockstep.catchUp time)

/-- A command other than a shutdown keeps the metronomes in lockstep, and none are left ticking that
were not before. -/
theorem handle (lockstep : pacer.Lockstep leftTicking) {command : Command}
    (goesOn : command ≠ .shutDown) (now : Nat) :
    (pacer.handle command now).2.Lockstep
      (leftTicking ∧ (pacer.player.handle command).2.state ≠ .running) := by
  have followed (beat : Beat) : (pacer.handle command now).2.metronomeOf beat =
      (pacer.metronomeOf beat).follow pacer.player.state (pacer.player.handle command).2.state
        now := by
    simp only [Pacer.handle]
    split
    · rename_i goodbye
      exact absurd (Player.eq_shutDown_of_goodbye goodbye) goesOn
    · rw [metronomeOf_followChange]
      cases beat <;> rfl
  constructor
  case ticking_iff =>
    intro beat
    rw [followed, player_handle]
    exact Metronome.isSome_deadline?_follow_iff (lockstep.ticking_iff beat) lockstep.idle
  case idle =>
    rintro ⟨left, resting⟩
    have before := lockstep.idle left
    rw [player_handle]
    obtain same | idle | ⟨running, -⟩ | ⟨paused, -⟩ | ⟨-, running, -⟩ :=
      pacer.player.state_handle command
    · exact same.trans before
    · exact idle
    · cases before.symm.trans running
    · cases before.symm.trans paused
    · exact absurd running resting

/-- A pacer that is shut down leaves its metronomes as they are. -/
theorem shutDown (lockstep : pacer.Lockstep leftTicking) (now : Nat) :
    (pacer.handle .shutDown now).2.Lockstep (pacer.player.state = .running ∨ leftTicking) where
  ticking_iff := fun beat => by
    have same : (pacer.handle .shutDown now).2.metronomeOf beat = pacer.metronomeOf beat := by
      cases beat <;> rfl
    have stopped : (pacer.handle .shutDown now).2.player.state = .idle :=
      Player.state_stop pacer.player
    rw [same, stopped, lockstep.ticking_iff]
    simp
  idle := fun _ => Player.state_stop pacer.player

end Lockstep

end Pacer

namespace Timeline

/-- Among some events there is a start that is accepted. -/
def HasStarted (timeline : Timeline) : List Event → Prop
  | [] => False
  | event :: rest => timeline.Starts event ∨ (timeline.after event).HasStarted rest

variable {timeline : Timeline} {leftTicking : Prop}

/-- A command is a start that is accepted exactly if it leads from no run to a running one. -/
theorem starts_command_iff {command : Command} :
    timeline.Starts (.command command) ↔ timeline.pacer.player.state = .idle ∧
      (timeline.pacer.player.handle command).2.state = .running := by
  constructor
  · intro starts
    cases command with
    | start program fresh =>
        exact Player.state_of_started ((Pacer.reply_handle _ _ _).symm.trans starts)
    | stop | togglePause | press | release | save | load | askState | shutDown => cases starts
  · rintro ⟨idle, running⟩
    obtain same | stopped | ⟨before, -⟩ | ⟨before, -⟩ | ⟨-, -, program, fresh, rfl, done⟩ :=
      timeline.pacer.player.state_handle command
    · cases idle.symm.trans (same.symm.trans running)
    · cases stopped.symm.trans running
    · cases idle.symm.trans before
    · cases idle.symm.trans before
    · exact (Pacer.reply_handle _ _ _).trans done

/-- Until a start is accepted, the metronomes are left ticking; afterwards they are not, unless the
pacer is shut down. -/
theorem lockstep_after (lockstep : timeline.pacer.Lockstep leftTicking) (event : Event) :
    ∃ left : Prop, (timeline.after event).pacer.Lockstep left ∧
      (leftTicking → ¬timeline.Starts event → left) ∧
      (event ≠ .command .shutDown → ¬leftTicking ∨ timeline.Starts event → ¬left) := by
  by_cases passes : ∀ command, event ≠ .command command
  · -- Time passes, with no more than wake-ups on the way.
    have noStart : ¬timeline.Starts event := by
      cases event with
      | command command => exact absurd rfl (passes command)
      | advance | oversleep | jump => exact id
    refine ⟨leftTicking, ?_, fun left _ => left, fun _ => ?_⟩
    · rw [pacer_after passes]
      exact lockstep.catchUpAll _
    · rintro (notLeft | starts)
      · exact notLeft
      · exact absurd starts noStart
  · obtain ⟨command, rfl⟩ : ∃ command, event = .command command := by simpa using passes
    by_cases shut : command = .shutDown
    · subst shut
      exact ⟨_, lockstep.shutDown timeline.now, fun left _ => .inr left,
        fun goesOn => absurd rfl goesOn⟩
    · refine ⟨_, lockstep.handle shut timeline.now, ?_, ?_⟩
      · intro left noStart
        exact ⟨left, fun running => noStart (starts_command_iff.mpr ⟨lockstep.idle left, running⟩)⟩
      · rintro - (notLeft | starts) ⟨left, resting⟩
        · exact notLeft left
        · exact resting (starts_command_iff.mp starts).2

theorem lockstep_afterAll (lockstep : timeline.pacer.Lockstep leftTicking) (events : List Event) :
    ∃ left : Prop, (timeline.afterAll events).pacer.Lockstep left ∧
      (leftTicking → ¬timeline.HasStarted events → left) ∧
      ((∀ event ∈ events, event ≠ .command .shutDown) →
        ¬leftTicking ∨ timeline.HasStarted events → ¬left) := by
  induction events generalizing timeline leftTicking with
  | nil => exact ⟨leftTicking, lockstep, fun left _ => left, fun _ => by simp [HasStarted]⟩
  | cons event rest ih =>
      obtain ⟨left, here, stays, ceases⟩ := lockstep_after lockstep event
      obtain ⟨last, there, stays', ceases'⟩ := ih here
      refine ⟨last, there, ?_, ?_⟩
      · intro before noStart
        obtain ⟨noStart, noLater⟩ := not_or.mp noStart
        exact stays' (stays before noStart) noLater
      · intro opened started
        obtain ⟨first, others⟩ := List.forall_mem_cons.mp opened
        apply ceases' others
        rcases started with before | here | later
        · exact .inl (ceases first (.inl before))
        · exact .inl (ceases first (.inr here))
        · exact .inr later

/-- Metronomes in lockstep. Whatever happens on a timeline, and whenever: both metronomes tick
while the run is running, and the next deadline is the earlier of theirs; both are frozen while it
is not, from the first accepted start on and as long as the pacer is not shut down; both tick before
that start. Nothing is due next exactly if the run is not running, and the two metronomes never
differ in whether they tick. -/
theorem lockstep (settings : Settings) (events : List Event) :
    let pacer := ((start settings).afterAll events).pacer
    let started := (start settings).HasStarted events
    (pacer.player.state = .running → ∃ cycle tick, pacer.cycles.deadline? = some cycle ∧
        pacer.ticks.deadline? = some tick ∧ pacer.deadline? = some (min cycle tick)) ∧
      (pacer.player.state ≠ .running → started →
        (∀ event ∈ events, event ≠ .command .shutDown) →
          pacer.cycles.deadline? = none ∧ pacer.ticks.deadline? = none) ∧
      (¬started → pacer.cycles.deadline?.isSome ∧ pacer.ticks.deadline?.isSome) ∧
      (pacer.deadline? = none ↔ pacer.player.state ≠ .running) ∧
      (pacer.cycles.deadline? = none ↔ pacer.ticks.deadline? = none) := by
  intro pacer started
  have fresh : (start settings).pacer.Lockstep True := Pacer.lockstep_start settings 0
  obtain ⟨left, inLockstep, stays, ceases⟩ := lockstep_afterAll fresh events
  have inLockstep : pacer.Lockstep left := inLockstep
  have ticking (holds : pacer.player.state = .running ∨ left) :
      pacer.cycles.deadline?.isSome ∧ pacer.ticks.deadline?.isSome :=
    ⟨(inLockstep.ticking_iff .cycle).mpr holds, (inLockstep.ticking_iff .tick).mpr holds⟩
  have deadlines (running : pacer.player.state = .running) :
      ∃ cycle tick, pacer.cycles.deadline? = some cycle ∧
        pacer.ticks.deadline? = some tick ∧ pacer.deadline? = some (min cycle tick) := by
    obtain ⟨cycleTicks, tickTicks⟩ := ticking (.inl running)
    obtain ⟨cycle, cycleEq⟩ := Option.isSome_iff_exists.mp cycleTicks
    obtain ⟨tick, tickEq⟩ := Option.isSome_iff_exists.mp tickTicks
    exact ⟨cycle, tick, cycleEq, tickEq, by simp only [Pacer.deadline?, running, cycleEq, tickEq]⟩
  refine ⟨deadlines, ?_, ?_, ?_, ?_⟩
  · intro resting hasStarted opened
    have frozen := inLockstep.frozen resting (ceases opened (.inr hasStarted))
    exact ⟨frozen .cycle, frozen .tick⟩
  · exact fun noStart => ticking (.inr (stays trivial noStart))
  · constructor
    · rintro nothingDue running
      obtain ⟨cycle, tick, -, -, next⟩ := deadlines running
      cases nothingDue.symm.trans next
    · intro resting
      cases stateEq : pacer.player.state <;> simp_all [Pacer.deadline?]
  · rw [← Option.not_isSome_iff_eq_none, ← Option.not_isSome_iff_eq_none]
    exact not_congr ((inLockstep.ticking_iff .cycle).trans (inLockstep.ticking_iff .tick).symm)

end Timeline

end Chip8
