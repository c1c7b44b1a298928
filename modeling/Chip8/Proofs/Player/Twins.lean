import Chip8.Proofs.Player.Alike
import Chip8.Proofs.Player.Transitions

/-!
# Players that draw from the same seed

Alike players go on alike until a run is started, for a start may draw a seed. If their settings fix
one and the same, it draws none, and they stay alike whatever happens to them.
-/

namespace Chip8.Player

/-- Alike players whose settings are the same and fix the seed. -/
structure Twins (left right : Player) : Prop where
  alike : left.Alike right
  settings : left.settings = right.settings
  seeded : left.settings.seed ≠ none

/-- The machine of a run that has just been started from a seed. -/
def booted (program : Program) (seed : UInt64) : Machine :=
  (Machine.boot program.image seed).acknowledgeScreen

variable {left right player : Player} {seed : UInt64}

/-- A start that finds a run is refused. -/
theorem handle_start_of_live (live : player.state ≠ .idle) (program : Program)
    (fresh : UInt64) :
    player.handle (.start program fresh) = (.refused .alreadyStarted, player) := by
  obtain ⟨settings, phase, channels⟩ := player
  cases phase with
  | idle => exact absurd rfl live
  | running | paused | halted => rfl

/-- A start that finds no run begins one that depends on nothing but the program and the seed. -/
theorem handle_start_of_idle (idle : player.state = .idle)
    (seeded : player.settings.seed = some seed) (program : Program) (fresh : UInt64) :
    player.handle (.start program fresh) =
      (.done,
        { player with
          phase := .running ⟨program, booted program seed⟩
          channels := player.channels.tell (.ofMachine (booted program seed) .running) }) := by
  obtain ⟨settings, phase, channels⟩ := player
  cases phase with
  | running | paused | halted => cases idle
  | idle =>
      have drawn : settings.seedFor fresh = seed := by
        rw [Settings.seedFor, seeded]
        rfl
      simp only [handle, start, drawn]
      rfl

namespace Twins

/-- Twins start a program alike, or refuse to. -/
theorem handle_start (twins : left.Twins right) (program : Program) (fresh : UInt64) :
    (left.handle (.start program fresh)).1 = (right.handle (.start program fresh)).1 ∧
      GoOnAlike left right (left.handle (.start program fresh)).2
        (right.handle (.start program fresh)).2 := by
  obtain ⟨state, -⟩ := alike_iff.mp twins.alike
  obtain ⟨seed, seeded⟩ := Option.ne_none_iff_exists'.mp twins.seeded
  by_cases idle : left.state = .idle
  · rw [handle_start_of_idle idle seeded,
      handle_start_of_idle (state ▸ idle) (twins.settings ▸ seeded)]
    exact ⟨rfl, ⟨_, rfl, rfl⟩, .running rfl _⟩
  · rw [handle_start_of_live idle, handle_start_of_live (state ▸ idle)]
    exact ⟨rfl, twins.alike.stay⟩

/-- Twins carry out every command alike and give the same reply. -/
theorem handle (twins : left.Twins right) (command : Command) :
    (left.handle command).1 = (right.handle command).1 ∧
      GoOnAlike left right (left.handle command).2 (right.handle command).2 := by
  cases starts : command.startsRun with
  | false => exact twins.alike.handle command starts
  | true =>
      cases command with
      | start program fresh => exact twins.handle_start program fresh
      | _ => cases starts

/-- Whatever happens to both, twins make the same of it and stay twins. -/
theorem after (twins : left.Twins right) (event : Event) :
    GoOnAlike left right (left.after event) (right.after event) ∧
      (left.after event).Twins (right.after event) := by
  have goOn : GoOnAlike left right (left.after event) (right.after event) := by
    cases event with
    | command command => exact (twins.handle command).2
    | cycle => exact twins.alike.cycle
    | tick => exact twins.alike.tick
  have kept := left.settings_after event
  have kept' := right.settings_after event
  refine ⟨goOn, goOn.alike, ?_, ?_⟩
  · rw [kept, kept', twins.settings]
  · rw [kept]
    exact twins.seeded

/-- Whatever happens to twins, they give the same replies, publish the same and stay twins. -/
theorem afterAll (twins : left.Twins right) (events : List Event) :
    left.replies events = right.replies events ∧ left.newsAll events = right.newsAll events ∧
      (left.afterAll events).Twins (right.afterAll events) := by
  refine conduct_of_steps (fun left right event twins _ => ⟨?_, twins.after event⟩) twins
    fun _ _ => trivial
  cases event with
  | command command => exact congrArg (fun reply => [reply]) (twins.handle command).1
  | cycle | tick => rfl

end Twins

end Chip8.Player
