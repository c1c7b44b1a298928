import Chip8.Proofs.Metronome.InStep
import Chip8.Proofs.Pacer.Stopped
import Chip8.Proofs.Player.Twins

/-!
# Pacers in step

Two pacers, each looked at at a time of its own, are in step if their players are twins and their
metronomes are in step. What is done to both of them after the same time lets the same happen to
both players (`Pacer.InStep.meetsAll_eq`), so they give the same replies and publish the same,
however different the histories are that led to them.
-/

namespace Chip8.Pacer

/-- The operation when it is done later by some time. -/
def Operation.delayed (span : Nat) : Operation → Operation
  | .command asked now => .command asked (span + now)
  | .cycle => .cycle
  | .tick => .tick
  | .wake now => .wake (span + now)

/-- What an operation lets happen to the player, in order. -/
def meets (pacer : Pacer) : Operation → List Player.Event
  | .command asked _ => [.command asked]
  | .cycle => [.cycle]
  | .tick => [.tick]
  | .wake now => (pacer.beats now).map (·.1.event)

/-- What some operations let happen to the player, in order. -/
def meetsAll (pacer : Pacer) : List Operation → List Player.Event
  | [] => []
  | operation :: rest => pacer.meets operation ++ (pacer.operate operation).meetsAll rest

/-- The replies to the commands among some operations, in order. -/
def replies (pacer : Pacer) : List Operation → List Reply
  | [] => []
  | .command asked now :: rest =>
      (pacer.handle asked now).1 :: (pacer.handle asked now).2.replies rest
  | operation :: rest => (pacer.operate operation).replies rest

/-- What is published in the course of some operations, in order. -/
def newsAll (pacer : Pacer) (operations : List Operation) : List News :=
  pacer.player.newsAll (pacer.meetsAll operations)

variable {pacer first second : Pacer} {operation : Operation} {operations : List Operation}
  {now now' : Nat} {beat : Beat}

/-! ## What operations let happen -/

theorem player_operate_eq (pacer : Pacer) (operation : Operation) :
    (pacer.operate operation).player = pacer.player.afterAll (pacer.meets operation) := by
  cases operation with
  | command asked now => exact pacer.player_handle asked now
  | cycle | tick => rfl
  | wake now => exact pacer.player_catchUp now

theorem player_operateAll (pacer : Pacer) (operations : List Operation) :
    (pacer.operateAll operations).player = pacer.player.afterAll (pacer.meetsAll operations) := by
  induction operations generalizing pacer with
  | nil => rfl
  | cons operation rest ih =>
      rw [operateAll, ih, player_operate_eq, meetsAll, Player.afterAll_append]

/-- Nothing is replied to beats. -/
theorem replies_beats (player : Player) (beats : List (Beat × Nat)) :
    player.replies (beats.map (·.1.event)) = [] := by
  induction beats generalizing player with
  | nil => rfl
  | cons performed rest ih =>
      obtain ⟨_ | _, _⟩ := performed <;> exact ih _

/-- The replies of a pacer are those of its player. -/
theorem replies_eq (pacer : Pacer) (operations : List Operation) :
    pacer.replies operations = pacer.player.replies (pacer.meetsAll operations) := by
  induction operations generalizing pacer with
  | nil => rfl
  | cons operation rest ih =>
      rw [meetsAll, Player.replies_append, ← player_operate_eq, ← ih]
      cases operation with
      | command asked now => rw [replies, reply_handle]; rfl
      | cycle | tick => rfl
      | wake now => rw [meets, replies_beats]; rfl

/-- The broadcasts hold what they held before and what was published since. -/
theorem channels_operateAll (pacer : Pacer) (operations : List Operation) :
    (pacer.operateAll operations).player.channels =
      pacer.player.channels.tellAll (pacer.newsAll operations) := by
  rw [player_operateAll, Player.channels_afterAll]
  rfl

theorem settings_operateAll (pacer : Pacer) (operations : List Operation) :
    (pacer.operateAll operations).player.settings = pacer.player.settings := by
  rw [player_operateAll, Player.settings_afterAll]

/-- Nothing that is done to a pacer changes its periods. -/
theorem period_operateAll (pacer : Pacer) (operations : List Operation) (beat : Beat) :
    ((pacer.operateAll operations).metronomeOf beat).period = (pacer.metronomeOf beat).period := by
  induction operations generalizing pacer with
  | nil => rfl
  | cons operation rest ih =>
      rw [operateAll, ih]
      cases operation with
      | command asked now => exact pacer.period_handle asked now beat
      | cycle | tick => cases beat <;> rfl
      | wake now => exact pacer.period_catchUp now beat

/-- The beats that draining performs begin with the one that is to be performed first. -/
theorem map_event_beats (next : pacer.nextBeat? now = some beat) :
    (pacer.beats now).map (·.1.event) =
      beat.event :: ((pacer.perform now beat).beats now).map (·.1.event) := by
  obtain ⟨deadline, upcoming, due⟩ := nextBeat?_eq_some_iff.mp next
  rw [beats_of_nextBeat? upcoming due]
  rfl

/-! ## What keeps pacers in step -/

/-- Which beat is to be performed first depends on how much they are overdue. -/
theorem nextBeat?_of_running (running : pacer.player.state = .running) :
    pacer.nextBeat? now =
      match (pacer.cycles.due? now).map (now - ·), (pacer.ticks.due? now).map (now - ·) with
      | some cycle, some tick => if cycle ≤ tick then some .tick else some .cycle
      | some _, none => some .cycle
      | none, some _ => some .tick
      | none, none => none := by
  simp only [nextBeat?, running]
  cases cycle : pacer.cycles.due? now with
  | none => cases pacer.ticks.due? now <;> rfl
  | some deadline =>
      cases tick : pacer.ticks.due? now with
      | none => rfl
      | some deadline' =>
          have due := (Metronome.due?_eq_some_iff.mp cycle).2
          have due' := (Metronome.due?_eq_some_iff.mp tick).2
          have overdue : deadline' ≤ deadline ↔ now - deadline ≤ now - deadline' := by omega
          simp only [Option.map_some, overdue]

/-- Two pacers, each at a time of its own, that will do the same from then on. -/
structure InStep (first : Pacer) (now : Nat) (second : Pacer) (now' : Nat) : Prop where
  twins : first.player.Twins second.player
  metronomes : ∀ beat, (first.metronomeOf beat).InStep now (second.metronomeOf beat) now'

namespace InStep

theorem state_eq (inStep : first.InStep now second now') :
    first.player.state = second.player.state :=
  (Player.alike_iff.mp inStep.twins.alike).1

/-- As long as nothing is done to them, pacers stay in step. -/
theorem later_iff (span : Nat) :
    first.InStep (now + span) second (now' + span) ↔ first.InStep now second now' :=
  ⟨fun inStep => ⟨inStep.twins, fun beat => (Metronome.InStep.later_iff span).mp
      (inStep.metronomes beat)⟩,
    fun inStep => ⟨inStep.twins, fun beat => (Metronome.InStep.later_iff span).mpr
      (inStep.metronomes beat)⟩⟩

/-- The same beat is to be performed first. -/
theorem nextBeat?_eq (inStep : first.InStep now second now') :
    first.nextBeat? now = second.nextBeat? now' := by
  by_cases running : second.player.state = .running
  · have cycles : (first.cycles.due? now).map (now - ·) = (second.cycles.due? now').map (now' - ·) :=
      (inStep.metronomes .cycle).due?_eq
    have ticks : (first.ticks.due? now).map (now - ·) = (second.ticks.due? now').map (now' - ·) :=
      (inStep.metronomes .tick).due?_eq
    rw [nextBeat?_of_running (inStep.state_eq.trans running), nextBeat?_of_running running, cycles,
      ticks]
  · rw [nextBeat?_of_not_running running, nextBeat?_of_not_running (inStep.state_eq ▸ running)]

/-- A beat that is performed on both sides leaves them in step. -/
theorem perform (inStep : first.InStep now second now') (beat : Beat) :
    (first.perform now beat).InStep now (second.perform now' beat) now' := by
  refine ⟨?_, fun other => ?_⟩
  · rw [player_perform, player_perform]
    exact (inStep.twins.after beat.event).2
  · rw [metronomeOf_perform, metronomeOf_perform]
    split
    · exact (inStep.metronomes other).consume
    · exact inStep.metronomes other

/-- Draining performs the same beats on both sides and leaves them in step. -/
theorem drain (inStep : first.InStep now second now') :
    (first.beats now).map (·.1.event) = (second.beats now').map (·.1.event) ∧
      (first.drain now).InStep now (second.drain now') now' := by
  fun_induction Pacer.drain first now generalizing second with
  | case1 first noBeat =>
      have noBeat' := inStep.nextBeat?_eq ▸ noBeat
      rw [beats_of_none noBeat, beats_of_none noBeat', Pacer.drain.eq_def second]
      refine ⟨rfl, ?_⟩
      split
      · exact inStep
      · simp_all
  | case2 first beat next ih =>
      have next' := inStep.nextBeat?_eq ▸ next
      obtain ⟨later, still⟩ := ih (inStep.perform beat)
      rw [map_event_beats next, map_event_beats next', drain_of_nextBeat? next', later]
      exact ⟨rfl, still⟩

/-- Pacers that follow the same change of the run state stay in step. -/
theorem followChange (inStep : first.InStep now second now') (before : RunState) :
    (first.followChange before now).InStep now (second.followChange before now') now' := by
  refine ⟨?_, fun beat => ?_⟩
  · rw [player_followChange, player_followChange]
    exact inStep.twins
  · rw [metronomeOf_followChange, metronomeOf_followChange, inStep.state_eq]
    exact (inStep.metronomes beat).follow before _

/-- Something that happens to the players alone leaves the pacers in step. -/
theorem happen (inStep : first.InStep now second now') (event : Player.Event) :
    { first with player := first.player.after event }.InStep now
      { second with player := second.player.after event } now' where
  twins := (inStep.twins.after event).2
  metronomes := by
    intro beat
    cases beat with
    | cycle => exact inStep.metronomes .cycle
    | tick => exact inStep.metronomes .tick

/-- Pacers in step that carry out the same command, or refuse it, stay in step. -/
theorem handle (inStep : first.InStep now second now') (asked : Command) :
    (first.handle asked now).2.InStep now (second.handle asked now').2 now' := by
  have after := inStep.happen (.command asked)
  have reply := (inStep.twins.handle asked).1
  simp only [Pacer.handle, reply, inStep.state_eq]
  split
  · exact after
  · exact after.followChange _

/-- What is done to both pacers at the same time lets the same happen and leaves them in step. -/
theorem operate (inStep : first.InStep now second now') (operation : Operation) :
    first.meets (operation.delayed now) = second.meets (operation.delayed now') ∧
      (first.operate (operation.delayed now)).InStep now
        (second.operate (operation.delayed now')) now' := by
  cases operation with
  | command asked span =>
      refine ⟨rfl, (later_iff span).mp ?_⟩
      exact ((later_iff span).mpr inStep).handle asked
  | cycle => exact ⟨rfl, inStep.happen .cycle⟩
  | tick => exact ⟨rfl, inStep.happen .tick⟩
  | wake span =>
      obtain ⟨beats, drained⟩ := ((later_iff span).mpr inStep).drain
      refine ⟨beats, (later_iff span).mp ?_⟩
      have followed := drained.followChange first.player.state
      rw [inStep.state_eq] at followed
      simp only [Operation.delayed, Pacer.operate, catchUp, inStep.state_eq]
      exact followed

/-- Whatever is done to both pacers, at times that are equally far away, lets the same happen to
their players and leaves them in step. -/
theorem operateAll (inStep : first.InStep now second now') (operations : List Operation) :
    first.meetsAll (operations.map (·.delayed now)) =
        second.meetsAll (operations.map (·.delayed now')) ∧
      (first.operateAll (operations.map (·.delayed now))).InStep now
        (second.operateAll (operations.map (·.delayed now'))) now' := by
  induction operations generalizing first second with
  | nil => exact ⟨rfl, inStep⟩
  | cons operation rest ih =>
      obtain ⟨same, still⟩ := inStep.operate operation
      obtain ⟨others, last⟩ := ih still
      refine ⟨?_, last⟩
      rw [List.map_cons, List.map_cons, meetsAll, meetsAll, same, others]

/-- Pacers in step give the same replies and publish the same. -/
theorem replies_eq (inStep : first.InStep now second now') (operations : List Operation) :
    first.replies (operations.map (·.delayed now)) =
        second.replies (operations.map (·.delayed now')) ∧
      first.newsAll (operations.map (·.delayed now)) =
        second.newsAll (operations.map (·.delayed now')) := by
  have same := (inStep.operateAll operations).1
  obtain ⟨replies, news, -⟩ :=
    inStep.twins.afterAll (second.meetsAll (operations.map (·.delayed now')))
  rw [Pacer.replies_eq, Pacer.replies_eq, newsAll, newsAll, same]
  exact ⟨replies, news⟩

end InStep

end Chip8.Pacer
