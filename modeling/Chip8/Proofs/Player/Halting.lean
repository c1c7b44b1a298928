import Chip8.Proofs.Machine.Faults
import Chip8.Proofs.Machine.InPlace
import Chip8.Proofs.Player.Course
import Chip8.Proofs.Player.Loading
import Chip8.Proofs.Player.Mirror
import Chip8.Proofs.Player.Stopped
import Chip8.Proofs.Player.Transitions

/-!
# Halted runs

A run is halted by a machine that is stuck, and a stuck machine is all that a halted run has to
offer: whoever saves it and loads it into another run of the program halts at the same fault.
-/

namespace Chip8.Player

/-- The run of a player stands on an instruction that it cannot execute. -/
def StuckOn (player : Player) (fault : Fault) : Prop :=
  ∃ machine, player.machine? = some machine ∧ machine.Stuck fault

/-- An event that neither ends a run nor asks to replace its machine. -/
def Event.KeepsRun (event : Event) : Prop :=
  event.loaded? = none ∧ ∀ command, event.command? = some command → command.endsRun = false

variable {player : Player} {event : Event} {events : List Event} {fault : Fault}

/-- Such an event leaves a run its machine. -/
theorem Event.KeepsRun.keepsMachine (keeps : event.KeepsRun) : player.KeepsMachine event := by
  rintro command asked
  refine ⟨keeps.2 command asked, ?_⟩
  rintro stored rfl
  cases event with
  | cycle | tick => cases asked
  | command =>
      cases asked
      cases keeps.1

/-- As long as a run is kept, what happens to it is what happens to its machine. -/
theorem exists_course {machine : Machine} (live : player.machine? = some machine)
    (keep : ∀ event ∈ events, event.KeepsRun) :
    ∃ course, (player.afterAll events).machine? = some (machine.afterAll course) := by
  refine ⟨player.courseAll events, machine?_afterAll live fun entry listed => ?_⟩
  exact (keep _ (mem_of_mem_chronicle listed)).keepsMachine

/-- A run that stands on an instruction it cannot execute stays there, halted or not. -/
theorem StuckOn.afterAll (stuck : player.StuckOn fault)
    (keep : ∀ event ∈ events, event.KeepsRun) : (player.afterAll events).StuckOn fault := by
  obtain ⟨machine, live, cannot⟩ := stuck
  obtain ⟨course, last⟩ := exists_course live keep
  exact ⟨_, last, (cannot.afterAll course).1⟩

/-- The next cycle of a running run that stands on such an instruction halts it. -/
theorem StuckOn.cycle (stuck : player.StuckOn fault) (running : player.state = .running) :
    player.cycle.state = .halted fault := by
  obtain ⟨machine, live, cannot⟩ := stuck
  obtain ⟨settings, phase, channels⟩ := player
  cases phase with
  | idle | paused | halted => cases running
  | running run =>
      cases live
      rw [cycle_of_faulted cannot.step_eq]
      rfl

/-- A cycle belongs to the program of the run, also if it halts it. -/
@[simp] theorem digest?_cycle (player : Player) : player.cycle.digest? = player.digest? := by
  rcases player.cycle_cases with same | ⟨_, _, _, _, rfl, ⟨_, _, halts⟩ | ⟨_, _, moves⟩⟩
  · rw [same]
  · rw [halts]
    rfl
  · rw [moves]
    rfl

/-- A run is halted by a cycle that faults, and by nothing else. -/
theorem halted_after (halted : (player.after event).state = .halted fault) :
    player.after event = player ∨ event = .cycle ∧ (player.after event).StuckOn fault := by
  cases event with
  | tick =>
      have still : player.state = .halted fault := (state_tick player).symm.trans halted
      exact .inl (after_of_halted still nofun)
  | cycle =>
      rw [after] at halted ⊢
      rcases player.cycle_cases with
        same | ⟨_, _, machine, _, rfl, ⟨met, step, halts⟩ | ⟨_, _, moves⟩⟩
      · exact .inl same
      · rw [halts] at halted ⊢
        cases halted
        have cannot := Machine.step_faulted_iff.mp (congrArg Prod.fst step)
        exact .inr ⟨rfl, machine, rfl, cannot⟩
      · rw [moves] at halted
        cases halted
  | command command =>
      left
      -- no command leads to a halted state
      have same : player.state = .halted fault := by
        rw [after] at halted
        rcases player.state_handle command with
          same | idle | ⟨_, other⟩ | ⟨_, other⟩ | ⟨_, other, _⟩
        · exact same.symm.trans halted
        · cases idle.symm.trans halted
        all_goals cases other.symm.trans halted
      apply after_of_halted same
      rintro _ ⟨⟩
      cases command with
      | stop | shutDown => cases (state_stop player).symm.trans halted
      | start | togglePause | press | release | save | load | askState => rfl

/-- Every halted run stands on the instruction that halted it. -/
theorem Reachable.stuckOn (reachable : player.Reachable) (halted : player.state = .halted fault) :
    player.StuckOn fault := by
  induction reachable with
  | fresh settings => cases halted
  | after _ _ ih | load _ _ _ _ ih =>
      rcases halted_after halted with same | ⟨-, stuck⟩
      · rw [same] at halted ⊢
        exact ih halted
      · exact stuck

/-- Faults leave no trace and are final. A step that faults leaves the machine as it was, also if
instructions are executed in place; from then on, whatever happens to the machine, every step
reports the same fault, and nothing but timers, keys and the note on the screen changes. So
whatever run of the program takes over what was saved of a halted run, it halts at the same fault
as soon as it is asked for a cycle. -/
theorem faults_final :
    (∀ (machine : Machine) (fault : Fault), machine.step.1 = .faulted fault →
      machine.step.2 = machine ∧ machine.stepInPlace = (.faulted fault, machine) ∧
        ∀ events, (∀ outcome ∈ machine.outcomes events, outcome = .faulted fault) ∧
          machine.SameWork (machine.afterAll events)) ∧
    ∀ source player : Player, source.Reachable →
      ∀ fault, source.state = .halted fault →
        player.state = .running ∨ player.state = .paused → player.digest? = source.digest? →
          ∃ stored loaded, source.save = .ok stored ∧ player.load stored = .ok loaded ∧
            ∀ between : List Event, (∀ event ∈ between, event.KeepsRun) →
              (loaded.afterAll between).state = .running →
                (loaded.afterAll between).cycle.state = .halted fault := by
  constructor
  · intro machine fault faulted
    have stuck := Machine.step_faulted_iff.mp faulted
    refine ⟨congrArg Prod.snd stuck.step_eq, ?_, fun events => ?_⟩
    · exact machine.stepInPlace_eq.trans stuck.step_eq
    · exact ⟨stuck.outcomes events, (stuck.afterAll events).2⟩
  · intro source player reachable fault halted active same
    have live : source.state ≠ .idle := by
      rw [halted]
      exact nofun
    obtain ⟨stored, saved⟩ := exists_save live
    obtain ⟨digest, machine⟩ := save_eq_ok_iff.mp saved
    obtain ⟨standing, standingEq, cannot⟩ := reachable.stuckOn halted
    cases standingEq.symm.trans machine
    refine ⟨stored, _, saved, load_eq active (same.trans digest), fun between keep running => ?_⟩
    have taken : (player.withMachine stored.machine.acknowledgeScreen).StuckOn fault := by
      refine ⟨_, machine?_withMachine ?_ _, cannot.after .acknowledge⟩
      rcases active with active | active <;> rw [active] <;> exact nofun
    exact (taken.afterAll keep).cycle running

/-- A program that returns without a call, saved behind its fault and loaded into another run. -/
theorem faults_final_return :
    let image : List UInt8 := [0x00, 0xEE]
    let program : Program := ⟨"return", image, .ofBytes image, by simp, by decide, rfl⟩
    let machine := Machine.boot image 0
    let started := (ofSettings ⟨700, some 0⟩).after (.command (.start program 0))
    let halted := started.after .cycle
    let other := (ofSettings ⟨500, some 1⟩).after (.command (.start program 0))
    let fault : Fault := .stackUnderflow 0x200
    machine.stepInPlace = (.faulted fault, machine) ∧
      (∀ outcome ∈ machine.outcomes [.tick, .press ⟨7⟩, .step], outcome = .faulted fault) ∧
      ∃ stored loaded, halted.save = .ok stored ∧ other.load stored = .ok loaded ∧
        loaded.tick.cycle.state = .halted fault := by
  intro image program machine started halted other fault
  obtain ⟨final, again⟩ := faults_final
  have stuck : machine.Stuck fault := by
    refine ⟨rfl, ?_⟩
    have fetched : machine.fetch = .ok .ret := Machine.fetch_of_image rfl (by decide) (by decide)
    rw [Machine.blocked?, fetched]
    rfl
  obtain ⟨-, inPlace, later⟩ := final machine fault (Machine.step_faulted_iff.mpr stuck)
  refine ⟨inPlace, (later _).1, ?_⟩
  have reachable : halted.Reachable := .after rfl (.after rfl (.fresh _))
  have stands : started.StuckOn fault :=
    ⟨machine.acknowledgeScreen, rfl, stuck.after .acknowledge⟩
  have stopped : halted.state = .halted fault := stands.cycle rfl
  obtain ⟨stored, loaded, saved, accepted, faults⟩ :=
    again halted other reachable fault stopped (.inl rfl) (digest?_cycle started).symm
  refine ⟨stored, loaded, saved, accepted, faults [.tick] ?_ ?_⟩
  · intro event only
    cases List.mem_singleton.mp only
    refine ⟨rfl, ?_⟩
    rintro command ⟨⟩
  · exact (state_tick loaded).trans (state_load accepted)

end Chip8.Player
