import Chip8.Proofs.Pacer.Steps
import Chip8.Proofs.Player.Twins

/-!
# What reaches a running player

A player that is running is moved on by beats and by keys, in some order. The order is known as
soon as the beats are known and, for each command, the number of beats before it
(`Impulse.eq_of_beatsOf`). A pause keeps both away and changes nothing besides: up to a pause that
is still lasting (`Player.resumed`), a player is what the beats and commands have made of it that
have reached it while it was running.
-/

namespace Chip8

/-- Something that reaches a player: a beat or a command. -/
inductive Impulse where
  | beat (beat : Beat)
  | command (command : Command)

namespace Impulse

/-- What an impulse lets happen to a player. -/
def event : Impulse → Player.Event
  | .beat due => due.event
  | .command asked => .command asked

/-- The beats among some impulses, in order. -/
def beatsOf : List Impulse → List Beat
  | [] => []
  | .beat due :: rest => due :: beatsOf rest
  | .command _ :: rest => beatsOf rest

/-- The commands among some impulses, in order, each with the number of beats before it when some
beats have already been counted. -/
def commandsFrom (count : Nat) : List Impulse → List (Nat × Command)
  | [] => []
  | .beat _ :: rest => commandsFrom (count + 1) rest
  | .command asked :: rest => (count, asked) :: commandsFrom count rest

@[simp] theorem beatsOf_append (first second : List Impulse) :
    beatsOf (first ++ second) = beatsOf first ++ beatsOf second := by
  induction first with
  | nil => rfl
  | cons impulse rest ih => cases impulse <;> simp [beatsOf, ih]

@[simp] theorem commandsFrom_append (count : Nat) (first second : List Impulse) :
    commandsFrom count (first ++ second) =
      commandsFrom count first ++ commandsFrom (count + (beatsOf first).length) second := by
  induction first generalizing count with
  | nil => rfl
  | cons impulse rest ih =>
      cases impulse <;> simp [commandsFrom, beatsOf, ih, Nat.add_assoc, Nat.add_comm]

@[simp] theorem beatsOf_map_beat (beats : List Beat) : beatsOf (beats.map .beat) = beats := by
  induction beats with
  | nil => rfl
  | cons beat rest ih => simp [beatsOf, ih]

@[simp] theorem commandsFrom_map_beat (count : Nat) (beats : List Beat) :
    commandsFrom count (beats.map .beat) = [] := by
  induction beats generalizing count with
  | nil => rfl
  | cons beat rest ih => exact ih (count + 1)

@[simp] theorem beatsOf_map_command (commands : List Command) :
    beatsOf (commands.map .command) = [] := by
  induction commands with
  | nil => rfl
  | cons command rest ih => exact ih

@[simp] theorem commandsFrom_map_command (count : Nat) (commands : List Command) :
    commandsFrom count (commands.map .command) = commands.map (count, ·) := by
  induction commands with
  | nil => rfl
  | cons command rest ih => simp [commandsFrom, ih]

/-- No command has fewer beats before it than were counted at first. -/
theorem le_of_mem_commandsFrom {count anchor : Nat} {command : Command} {impulses : List Impulse}
    (listed : (anchor, command) ∈ commandsFrom count impulses) : count ≤ anchor := by
  induction impulses generalizing count with
  | nil => cases listed
  | cons impulse rest ih =>
      cases impulse with
      | beat beat => exact Nat.le_of_succ_le (ih listed)
      | command other =>
          rcases List.mem_cons.mp listed with same | later
          · cases same
            exact Nat.le_refl _
          · exact ih later

/-- The order of impulses is known from the beats and from the number of beats before each
command. -/
theorem eq_of_beatsOf {first second : List Impulse} {count : Nat}
    (beats : beatsOf first = beatsOf second)
    (commands : commandsFrom count first = commandsFrom count second) : first = second := by
  induction first generalizing second count with
  | nil =>
      cases second with
      | nil => rfl
      | cons other others =>
          cases other with
          | beat => cases beats
          | command => cases commands
  | cons impulse rest ih =>
      cases impulse with
      | beat beat =>
          cases second with
          | nil => cases beats
          | cons other others =>
              cases other with
              | beat otherBeat =>
                  obtain ⟨same, later⟩ := List.cons.inj beats
                  rw [same, ih later commands]
              | command command =>
                  -- the beat comes first on one side and behind the command on the other
                  have early : (count, command) ∈ commandsFrom (count + 1) rest := by
                    rw [show commandsFrom (count + 1) rest = _ from commands]
                    exact List.mem_cons_self
                  have := le_of_mem_commandsFrom early
                  omega
      | command command =>
          cases second with
          | nil => cases commands
          | cons other others =>
              cases other with
              | command otherCommand =>
                  obtain ⟨same, later⟩ := List.cons.inj commands
                  cases same
                  have sooner : beatsOf rest = beatsOf others := beats
                  rw [ih sooner later]
              | beat beat =>
                  have early : (count, command) ∈ commandsFrom (count + 1) others := by
                    rw [show commandsFrom (count + 1) others = _ from commands.symm]
                    exact List.mem_cons_self
                  have := le_of_mem_commandsFrom early
                  omega

end Impulse

/-- A phase with its pause, if there is one, taken back. -/
def Phase.resumed : Phase → Phase
  | .paused run => .running run
  | phase => phase

namespace Player

/-- A player with its pause, if there is one, taken back. -/
def resumed (player : Player) : Player := { player with phase := player.phase.resumed }

variable {player : Player} {fault : Fault}

/-- Two players with settings that fix the seed start a program alike. -/
theorem alike_of_started {left right : Player} {program : Program} {fresh fresh' seed : UInt64}
    (same : left.settings = right.settings) (seeded : left.settings.seed = some seed)
    (idle : left.state = .idle) (idle' : right.state = .idle) :
    (left.handle (.start program fresh)).2.Alike (right.handle (.start program fresh')).2 := by
  rw [handle_start_of_idle idle seeded, handle_start_of_idle idle' (same ▸ seeded)]
  exact .running rfl _

@[simp] theorem machine?_resumed (player : Player) : player.resumed.machine? = player.machine? := by
  obtain ⟨settings, phase, channels⟩ := player
  cases phase <;> rfl

theorem state_resumed_eq_halted_iff :
    player.resumed.state = .halted fault ↔ player.state = .halted fault := by
  obtain ⟨settings, phase, channels⟩ := player
  cases phase with
  | idle | running | halted => exact Iff.rfl
  | paused => exact ⟨nofun, nofun⟩

theorem resumed_of_not_paused (awake : player.state ≠ .paused) : player.resumed = player := by
  obtain ⟨settings, phase, channels⟩ := player
  cases phase with
  | idle | running | halted => rfl
  | paused => exact absurd rfl awake

/-- Pausing and resuming make no difference to a player whose pause is taken back. -/
theorem resumed_togglePause (player : Player) :
    (player.handle .togglePause).2.resumed.Alike player.resumed := by
  obtain ⟨settings, phase, channels⟩ := player
  cases phase <;> exact Alike.refl _

/-- A key means nothing to a player that is neither running nor paused. -/
theorem handle_key_of_stopped {command : Command} (about : command.keyEvent? ≠ none)
    (awake : player.state ≠ .paused) (resting : player.state ≠ .running) :
    (player.handle command).2 = player := by
  obtain ⟨settings, phase, channels⟩ := player
  cases command with
  | start | stop | togglePause | save | load | askState | shutDown => exact absurd rfl about
  | press | release =>
      cases phase with
      | running => exact absurd rfl resting
      | paused => exact absurd rfl awake
      | idle | halted => rfl

/-- A key that a player meets while it is not paused leaves it not paused. -/
theorem not_paused_handle_key {command : Command} (about : command.keyEvent? ≠ none)
    (awake : player.state ≠ .paused) : (player.handle command).2.state ≠ .paused := by
  cases command with
  | start | stop | togglePause | save | load | askState | shutDown => exact absurd rfl about
  | press | release =>
      rw [← state_withKeys player] at awake
      exact awake

/-- No beat pauses a player. -/
theorem not_paused_after_beat (awake : player.state ≠ .paused) (beat : Beat) :
    (player.after beat.event).state ≠ .paused := by
  cases beat with
  | tick =>
      rw [← state_tick player] at awake
      exact awake
  | cycle =>
      rw [Beat.event, after]
      rcases player.cycle_cases with same | ⟨_, _, _, _, rfl, ⟨_, _, halts⟩ | ⟨_, _, moves⟩⟩
      · rw [same]
        exact awake
      · rw [halts]
        rintro ⟨⟩
      · rw [moves]
        rintro ⟨⟩

theorem not_paused_afterAll_beats (awake : player.state ≠ .paused) (beats : List Beat) :
    (player.afterAll (beats.map Beat.event)).state ≠ .paused := by
  induction beats generalizing player with
  | nil => exact awake
  | cons beat rest ih => exact ih (not_paused_after_beat awake beat)

end Player

end Chip8
