import Chip8.Proofs.Pacer.Replay
import Chip8.Proofs.Pacer.Steps
import Chip8.Proofs.Player.InPlace

/-!
# Refusals and their reasons

`Player.Refuses` lists the reasons for which a player refuses a command, and `Pacer.refusals` says
that these are all the reasons there are, that each of them is given whenever it applies, and that
nothing is left behind by a command that is refused: not in the player, not in one of the parts
that a command changes one after the other, and not in the metronomes.
-/

namespace Chip8

namespace Player

/-- The commands that a player refuses, each with the reason. -/
inductive Refuses (player : Player) : Command → Refusal → Prop where
  | startTwice (program : Program) (fresh : UInt64) (live : player.state ≠ .idle) :
      Refuses player (.start program fresh) .alreadyStarted
  | toggleNothing (idle : player.state = .idle) : Refuses player .togglePause .notStarted
  | toggleHalted (fault : Fault) (halted : player.state = .halted fault) :
      Refuses player .togglePause (.halted fault)
  | saveNothing (idle : player.state = .idle) : Refuses player .save .notStarted
  /-- Whatever program the stored state belongs to. -/
  | loadHalted (stored : SaveState) (fault : Fault) (halted : player.state = .halted fault) :
      Refuses player (.load stored) (.halted fault)
  | loadNothing (stored : SaveState) (idle : player.state = .idle) :
      Refuses player (.load stored) .notStarted
  | loadForeign (stored : SaveState) (digest : Digest)
      (active : player.state = .running ∨ player.state = .paused)
      (runs : player.digest? = some digest) (foreign : digest ≠ stored.digest) :
      Refuses player (.load stored) (.foreignState digest stored.digest)

variable {player : Player} {command : Command} {refusal : Refusal} {stored : SaveState}

theorem refuses_of_load_refused (refused : player.load stored = .error refusal) :
    player.Refuses (.load stored) refusal := by
  obtain ⟨settings, phase, channels⟩ := player
  cases phase with
  | idle =>
      cases refused
      exact .loadNothing stored rfl
  | halted run fault =>
      cases refused
      exact .loadHalted stored fault rfl
  | running run | paused run =>
      simp only [load] at refused
      split at refused <;> cases refused
      rename_i foreign
      exact .loadForeign stored run.program.digest (by simp [state, Phase.state]) rfl foreign

/-- A command is refused only for one of the reasons. -/
theorem refuses_of_refused (refused : (player.handle command).1 = .refused refusal) :
    player.Refuses command refusal := by
  cases command with
  | stop | shutDown | press | release | askState => cases refused
  | load stored =>
      simp only [handle] at refused
      split at refused <;> cases refused
      exact refuses_of_load_refused ‹_›
  | start program fresh =>
      obtain ⟨settings, phase, channels⟩ := player
      cases phase <;> cases refused <;>
        exact .startTwice program fresh (by rintro ⟨⟩)
  | togglePause =>
      obtain ⟨settings, phase, channels⟩ := player
      cases phase with
      | running | paused => cases refused
      | idle =>
          cases refused
          exact .toggleNothing rfl
      | halted run fault =>
          cases refused
          exact .toggleHalted fault rfl
  | save =>
      obtain ⟨settings, phase, channels⟩ := player
      cases phase <;> cases refused
      exact .saveNothing rfl

/-- A command is refused whenever one of the reasons applies. -/
theorem Refuses.refused (refuses : player.Refuses command refusal) :
    (player.handle command).1 = .refused refusal := by
  obtain ⟨settings, phase, channels⟩ := player
  cases refuses with
  | startTwice program fresh live =>
      cases phase with
      | idle => exact absurd rfl live
      | running | paused | halted => rfl
  | toggleNothing idle | saveNothing idle | loadNothing stored idle =>
      cases phase <;> cases idle
      rfl
  | toggleHalted fault halted | loadHalted stored fault halted =>
      cases phase <;> cases halted
      rfl
  | loadForeign stored digest active runs foreign =>
      cases phase with
      | idle | halted => rcases active with running | paused <;> contradiction
      | running run | paused run =>
          cases runs
          simp only [handle, load, if_neg foreign]

/-- The play button tells whether there is a run. -/
theorem Mirrors.idle_iff (mirrors : player.Mirrors) :
    player.state = .idle ↔ player.channels.playing.value.hasStarted = false := by
  rw [mirrors.playing]
  cases player.state <;> simp [RunState.playing]

end Player

namespace Pacer

variable {pacer : Pacer}

/-- Commands are refused for the right reason and then change nothing. A command is refused with a
reason exactly if that reason applies; there is no run, so that there is nothing to save, exactly if
the play button says that nothing has started; and a stop is always carried out. Whenever a command
is refused, the player and both metronomes are as before, and so are the parts of the player when
the command changes them one after the other. -/
theorem refusals (reachable : pacer.player.Reachable) (command : Command) (now : Nat) :
    (∀ refusal, (pacer.handle command now).1 = .refused refusal ↔
      pacer.player.Refuses command refusal) ∧
    (pacer.player.state = .idle ↔
      pacer.player.channels.playing.value.hasStarted = false) ∧
    (pacer.handle .stop now).1 = .done ∧
    ∀ refusal, (pacer.handle command now).1 = .refused refusal →
      (pacer.handle command now).2 = pacer ∧
        pacer.player.parts.handle command = (.refused refusal, pacer.player.parts) := by
  refine ⟨fun refusal => ?_, reachable.mirrors.idle_iff, reply_handle pacer .stop now, ?_⟩
  · rw [reply_handle]
    exact ⟨Player.refuses_of_refused, Player.Refuses.refused⟩
  · intro refusal refused
    rw [reply_handle] at refused
    have same := Player.handle_of_refused refused
    refine ⟨?_, ?_⟩
    · rw [handle_of_same_state (congrArg Player.state same), same]
    · rw [Player.handle_parts, refused, same]

/-- A state that was saved of one program and is offered to a paused run of another one. -/
theorem refusals_foreign :
    let first : Program := ⟨"here", [0x12, 0x00], .ofBytes [0x12, 0x00], by simp, by decide, rfl⟩
    let second : Program := ⟨"wait", [0xF3, 0x0A], .ofBytes [0xF3, 0x0A], by simp, by decide, rfl⟩
    let source := (Player.ofSettings ⟨700, some 0⟩).after (.command (.start first 0))
    let started := ((start ⟨700, some 0⟩ 0).handle (.start second 0) 0).2
    let pacer := (started.handle .togglePause 5).2
    ∃ stored, source.save = .ok stored ∧ stored.digest = first.digest ∧
      pacer.handle (.load stored) 9 =
        (.refused (.foreignState second.digest first.digest), pacer) ∧
      pacer.player.parts.handle (.load stored) =
        (.refused (.foreignState second.digest first.digest), pacer.player.parts) := by
  -- stated of any programs, so that no digest is evaluated but to compare them
  have refuses (first second : Program) (foreign : second.digest ≠ first.digest) :
      let source := (Player.ofSettings ⟨700, some 0⟩).after (.command (.start first 0))
      let started := ((start ⟨700, some 0⟩ 0).handle (.start second 0) 0).2
      let pacer := (started.handle .togglePause 5).2
      ∃ stored, source.save = .ok stored ∧ stored.digest = first.digest ∧
        pacer.handle (.load stored) 9 =
          (.refused (.foreignState second.digest first.digest), pacer) ∧
        pacer.player.parts.handle (.load stored) =
          (.refused (.foreignState second.digest first.digest), pacer.player.parts) := by
    intro source started pacer
    have reachable : pacer.player.Reachable := by
      rw [player_handle, player_handle]
      exact @Player.Reachable.after _ (.command _) rfl
        (@Player.Reachable.after _ (.command _) rfl (.fresh _))
    obtain ⟨stored, saved⟩ := @Player.exists_save source nofun
    have digest : stored.digest = first.digest :=
      (Option.some.inj (Player.save_eq_ok_iff.mp saved).1).symm
    obtain ⟨reasons, -, -, same⟩ := refusals reachable (.load stored) 9
    have refused : (pacer.handle (.load stored) 9).1 =
        .refused (.foreignState second.digest first.digest) := by
      rw [reasons, ← digest]
      exact .loadForeign stored second.digest (.inr rfl) rfl (digest ▸ foreign)
    obtain ⟨still, parts⟩ := same _ refused
    exact ⟨stored, saved, digest, Prod.ext refused still, parts⟩
  have foreign : (Digest.ofBytes [0xF3, 0x0A]).a ≠ (Digest.ofBytes [0x12, 0x00]).a := by
    set_option maxRecDepth 20000 in
    decide +kernel
  exact refuses _ _ fun same => foreign (congrArg Digest.a same)

end Pacer

end Chip8
