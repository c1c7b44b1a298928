import Chip8.Proofs.Metronome.Owed
import Mathlib.Data.List.Induction

/-!
# Metronomes do not drift

Whatever is done to a metronome, in whatever order, the beats that it has given since it was last
started over, together with the one that it waits for, take their periods of the time for which it
was not frozen. So its deadline is never too early. It is too late only if time was dropped: by a
poll that found too much lag, or by a freeze behind the deadline. `Metronome.no_drift` says this of
every history; `Metronome.Paced.after` says what a single operation contributes.
-/

namespace Chip8.Metronome

/-! ## Histories -/

/-- What can be done to a metronome. -/
inductive Operation where
  | poll
  | freeze
  | thaw
  | restart
  deriving DecidableEq, Repr

/-- An operation and when it happens. -/
structure Moment where
  time : Nat
  operation : Operation
  deriving DecidableEq, Repr

/-- The metronome behind an operation. -/
def after (metronome : Metronome) (moment : Moment) : Metronome :=
  match moment.operation with
  | .poll => (metronome.poll moment.time).2
  | .freeze => metronome.freeze moment.time
  | .thaw => metronome.thaw moment.time
  | .restart => metronome.restart moment.time

/-- The metronome behind a history, the first moment of which comes first. -/
def afterAll (metronome : Metronome) : List Moment → Metronome
  | [] => metronome
  | moment :: rest => (metronome.after moment).afterAll rest

/-- Every moment with the metronome that meets it, in order. -/
def chronicle (metronome : Metronome) : List Moment → List (Metronome × Moment)
  | [] => []
  | moment :: rest => (metronome, moment) :: (metronome.after moment).chronicle rest

/-- Whether a moment is a poll that finds a beat due. -/
def gives (metronome : Metronome) (moment : Moment) : Bool :=
  match moment.operation with
  | .poll => (metronome.poll moment.time).1
  | _ => false

/-- A moment does not come so late that time is dropped: a poll finds no more lag than is caught up,
and a freeze comes no later than the deadline. -/
def InTime (metronome : Metronome) (moment : Moment) : Prop :=
  ∀ deadline ∈ metronome.deadline?,
    (moment.operation = .poll → moment.time ≤ deadline + maxLag) ∧
      (moment.operation = .freeze → moment.time ≤ deadline)

instance (metronome : Metronome) (moment : Moment) : Decidable (metronome.InTime moment) :=
  inferInstanceAs (Decidable (∀ deadline ∈ metronome.deadline?, _ ∧ _))

/-- What happened since the metronome was last started over. -/
def sinceRestart (entries : List (Metronome × Moment)) : List (Metronome × Moment) :=
  (entries.reverse.takeWhile fun entry => entry.2.operation != .restart).reverse

/-- When the metronome was last started over, or else started. -/
def origin (start : Nat) (history : List Moment) : Nat :=
  ((history.filter fun moment => moment.operation == .restart).getLast?.map Moment.time).getD start

/-- The number of beats that were given. -/
def beatsGiven (entries : List (Metronome × Moment)) : Nat :=
  entries.countP fun entry => entry.1.gives entry.2

/-- The pauses since a metronome was last started over: for how long those lasted that are over, and
since when the one lasts that is not. -/
structure Pauses where
  ended : Nat
  since? : Option Nat
  deriving DecidableEq, Repr

namespace Pauses

/-- No pause yet. -/
def fresh : Pauses := ⟨0, none⟩

/-- Take note of a moment. Freezing during a pause and thawing outside of one do not count. -/
def note (pauses : Pauses) (moment : Moment) : Pauses :=
  match moment.operation, pauses.since? with
  | .freeze, none => { pauses with since? := some moment.time }
  | .thaw, some since => ⟨pauses.ended + (moment.time - since), none⟩
  | .restart, _ => fresh
  | _, _ => pauses

/-- The pauses in a history. -/
def ofHistory (history : List Moment) : Pauses :=
  history.foldl note fresh

/-- How long the pauses have lasted at a time. -/
def lasted (pauses : Pauses) (now : Nat) : Nat :=
  match pauses.since? with
  | some since => pauses.ended + (now - since)
  | none => pauses.ended

@[simp] theorem ofHistory_concat (history : List Moment) (moment : Moment) :
    ofHistory (history ++ [moment]) = (ofHistory history).note moment := by
  simp [ofHistory]

/-- While time passes, only the pause lasts longer that is not over. -/
theorem lasted_later {pauses : Pauses} {early late : Nat} (ordered : early ≤ late)
    (since_le : ∀ since, pauses.since? = some since → since ≤ early) :
    pauses.lasted late =
      pauses.lasted early + if pauses.since?.isSome then late - early else 0 := by
  obtain ⟨ended, _ | since⟩ := pauses
  · rfl
  · have := since_le since rfl
    simp only [lasted, Option.isSome_some, if_true]
    omega

/-- No pause begins later than the moments that are taken note of. -/
theorem since_note_le {pauses : Pauses} {moment : Moment}
    (since_le : ∀ since, pauses.since? = some since → since ≤ moment.time) :
    ∀ since, (pauses.note moment).since? = some since → since ≤ moment.time := by
  obtain ⟨ended, _ | since⟩ := pauses <;> obtain ⟨time, operation⟩ := moment <;>
    cases operation <;> simp_all [note, fresh]

/-- A pause that begins or ends has lasted as long as before. -/
theorem lasted_note {moment : Moment} (goesOn : moment.operation ≠ .restart) (pauses : Pauses) :
    (pauses.note moment).lasted moment.time = pauses.lasted moment.time := by
  obtain ⟨ended, _ | since⟩ := pauses <;> obtain ⟨time, operation⟩ := moment <;>
    cases operation <;> simp_all [note, lasted]

end Pauses

@[simp] theorem afterAll_concat (metronome : Metronome) (history : List Moment) (moment : Moment) :
    metronome.afterAll (history ++ [moment]) = (metronome.afterAll history).after moment := by
  induction history generalizing metronome with
  | nil => rfl
  | cons first rest ih => exact ih (metronome.after first)

@[simp] theorem chronicle_concat (metronome : Metronome) (history : List Moment) (moment : Moment) :
    metronome.chronicle (history ++ [moment]) =
      metronome.chronicle history ++ [(metronome.afterAll history, moment)] := by
  induction history generalizing metronome with
  | nil => rfl
  | cons first rest ih => exact congrArg ((metronome, first) :: ·) (ih (metronome.after first))

theorem sinceRestart_concat (entries : List (Metronome × Moment)) (before : Metronome)
    (moment : Moment) :
    sinceRestart (entries ++ [(before, moment)]) =
      if moment.operation = .restart then [] else sinceRestart entries ++ [(before, moment)] := by
  by_cases restarts : moment.operation = .restart <;> simp [sinceRestart, restarts]

theorem origin_concat (start : Nat) (history : List Moment) (moment : Moment) :
    origin start (history ++ [moment]) =
      if moment.operation = .restart then moment.time else origin start history := by
  by_cases restarts : moment.operation = .restart <;> simp [origin, restarts]

/-! ## The pace -/

/-- A metronome that has given some beats while it was ticking for some time. It was not faster than
its period allows; if no moment came so late that time was dropped, it was not slower either, even
if it is behind its deadline now. -/
structure Paced (metronome : Metronome) (now active beats : Nat) (inTime : Prop) : Prop
    extends OnPace metronome now active beats False where
  whole : inTime →
    ↑(beats * metronome.period) + metronome.period = metronome.left now + active

variable {metronome : Metronome} {now early late active beats start period : Nat}
  {inTime : Prop} {moment : Moment} {history : List Moment}

@[simp] theorem period_after (metronome : Metronome) (moment : Moment) :
    (metronome.after moment).period = metronome.period := by
  obtain ⟨period, deadline | remaining, _⟩ := metronome <;> obtain ⟨time, operation⟩ := moment <;>
    cases operation <;> first | rfl | exact period_consume _ _

@[simp] theorem period_afterAll (metronome : Metronome) (history : List Moment) :
    (metronome.afterAll history).period = metronome.period := by
  induction history generalizing metronome with
  | nil => rfl
  | cons moment rest ih => exact (ih _).trans (period_after metronome moment)

namespace Paced

/-- Time that passes counts while a metronome is ticking, and only then. -/
theorem pass (paced : metronome.Paced early active beats inTime) (ordered : early ≤ late) :
    metronome.Paced late (active + if metronome.deadline?.isSome then late - early else 0) beats
      inTime := by
  cases ticking : metronome.deadline? with
  | some deadline =>
      refine ⟨paced.toOnPace.pass ticking ordered False.elim, fun holds => ?_⟩
      have whole := paced.whole holds
      rw [left_of_deadline? ticking] at whole ⊢
      simp only [Option.isSome_some, if_true]
      omega
  | none =>
      have left : metronome.left late = metronome.left early := left_of_frozen ticking
      refine ⟨paced.toOnPace.congr rfl left id, fun holds => ?_⟩
      rw [left]
      exact paced.whole holds

theorem consume {deadline : Nat} (paced : metronome.Paced now active beats inTime)
    (due : metronome.due? now = some deadline) {punctual : Prop}
    (prompt : punctual → inTime ∧ now ≤ deadline + maxLag) :
    (metronome.consume now).Paced now active (beats + 1) punctual := by
  obtain ⟨ticking, reached⟩ := due?_eq_some_iff.mp due
  obtain ⟨bound, left_le, -⟩ := paced.toOnPace.consume ticking reached
  refine ⟨⟨bound, left_le, False.elim⟩, fun holds => ?_⟩
  obtain ⟨before, caughtUp⟩ := prompt holds
  have whole := paced.whole before
  rw [left_of_deadline? ticking] at whole
  rw [consume_of_due ticking reached, following_of_withinLag (by omega)]
  simp only [left, Nat.add_one_mul]
  omega

theorem freeze (paced : metronome.Paced now active beats inTime) {punctual : Prop}
    (prompt : punctual →
      inTime ∧ ∀ deadline, metronome.deadline? = some deadline → now ≤ deadline) :
    (metronome.freeze now).Paced now active beats punctual := by
  obtain ⟨bound, left_le, -⟩ := paced.toOnPace.freeze
  refine ⟨⟨bound, left_le, False.elim⟩, fun holds => ?_⟩
  obtain ⟨before, early⟩ := prompt holds
  have whole := paced.whole before
  obtain ⟨period, deadline | remaining, _⟩ := metronome
  · have := early deadline rfl
    simp only [Metronome.freeze, left] at whole ⊢
    omega
  · exact whole

theorem thaw (paced : metronome.Paced now active beats inTime) {punctual : Prop}
    (still : punctual → inTime) : (metronome.thaw now).Paced now active beats punctual := by
  obtain ⟨bound, left_le, -⟩ := paced.toOnPace.thaw
  refine ⟨⟨bound, left_le, False.elim⟩, fun holds => ?_⟩
  have whole := paced.whole (still holds)
  obtain ⟨period, deadline | remaining, _⟩ := metronome
  · exact whole
  · simp only [Metronome.thaw, left] at whole ⊢
    omega

theorem restart : (metronome.restart now).Paced now 0 0 inTime := by
  refine ⟨OnPace.restart, fun _ => ?_⟩
  rw [left_restart]
  simp [Metronome.restart]

/-- What an operation that is no restart does to the pace. -/
theorem after (paced : metronome.Paced moment.time active beats inTime)
    (goesOn : moment.operation ≠ .restart) :
    (metronome.after moment).Paced moment.time active
      (beats + if metronome.gives moment then 1 else 0) (inTime ∧ metronome.InTime moment) := by
  obtain ⟨time, operation⟩ := moment
  cases operation with
  | poll =>
      cases due : metronome.due? time with
      | none =>
          have still : metronome.after ⟨time, .poll⟩ = metronome := by
            simp only [Metronome.after, poll, Metronome.consume, due]
          have silent : metronome.gives ⟨time, .poll⟩ = false := by
            simp only [gives, poll, due, Option.isSome_none]
          rw [still, silent]
          exact ⟨paced.toOnPace, fun holds => paced.whole holds.1⟩
      | some deadline =>
          have heard : metronome.gives ⟨time, .poll⟩ = true := by
            simp only [gives, poll, due, Option.isSome_some]
          rw [heard]
          exact paced.consume due fun holds =>
            ⟨holds.1, (holds.2 deadline (due?_eq_some_iff.mp due).1).1 rfl⟩
  | freeze =>
      exact paced.freeze fun holds => ⟨holds.1, fun deadline next => (holds.2 deadline next).2 rfl⟩
  | thaw => exact paced.thaw fun holds => holds.1
  | restart => exact absurd rfl goesOn

end Paced

/-! ## The pace of a history -/

/-- A metronome that ticks outside of pauses and only there goes on doing so. -/
theorem isSome_deadline?_after (moment : Moment) {pauses : Pauses}
    (ticking : metronome.deadline?.isSome = !pauses.since?.isSome) :
    (metronome.after moment).deadline?.isSome = !(pauses.note moment).since?.isSome := by
  obtain ⟨time, operation⟩ := moment
  cases operation with
  | poll =>
      rw [after, poll, isSome_deadline?_consume]
      exact ticking
  | freeze | thaw | restart =>
      obtain ⟨period, deadline | remaining, _⟩ := metronome <;>
        obtain ⟨ended, _ | since⟩ := pauses <;>
        simp_all [after, Metronome.freeze, Metronome.thaw, Metronome.restart, deadline?,
          Pauses.note, Pauses.fresh]

/-- What has become of a metronome at a time behind a history. -/
structure Account (period start : Nat) (history : List Moment) (now active : Nat) : Prop where
  /-- The time since the metronome was last started over is made up of pauses and of the time for
  which it was ticking. -/
  time : origin start history + (Pauses.ofHistory history).lasted now + active = now
  since_le : ∀ since, (Pauses.ofHistory history).since? = some since → since ≤ now
  ticking : ((Metronome.start period start).afterAll history).deadline?.isSome =
    !(Pauses.ofHistory history).since?.isSome
  paced : ((Metronome.start period start).afterAll history).Paced now active
    (beatsGiven (sinceRestart ((Metronome.start period start).chronicle history)))
    (∀ entry ∈ sinceRestart ((Metronome.start period start).chronicle history),
      entry.1.InTime entry.2)

namespace Account

theorem begin (period start : Nat) : Account period start [] start 0 where
  time := rfl
  since_le := nofun
  ticking := rfl
  -- a metronome starts as one that is started over
  paced := show ((Metronome.start period start).restart start).Paced start 0 0 _ from .restart

theorem pass (account : Account period start history early active) (ordered : early ≤ late) :
    ∃ active, Account period start history late active := by
  obtain ⟨time, since_le, ticking, paced⟩ := account
  refine ⟨_, ?_, fun since begun => Nat.le_trans (since_le since begun) ordered, ticking,
    paced.pass ordered⟩
  rw [Pauses.lasted_later ordered since_le, ticking]
  cases (Pauses.ofHistory history).since?.isSome <;>
    simp only [Bool.not_true, Bool.not_false, Bool.false_eq_true, if_true, if_false] <;> omega

theorem concat (account : Account period start history moment.time active) :
    ∃ active, Account period start (history ++ [moment]) moment.time active := by
  obtain ⟨time, since_le, ticking, paced⟩ := account
  have since_le := Pauses.since_note_le since_le
  have ticking := isSome_deadline?_after moment ticking
  rw [← Pauses.ofHistory_concat] at since_le ticking
  rw [← afterAll_concat] at ticking
  by_cases restarts : moment.operation = .restart
  · refine ⟨0, ?_, since_le, ticking, ?_⟩
    · rw [origin_concat, if_pos restarts, Pauses.ofHistory_concat, Pauses.note, restarts]
      rfl
    · rw [afterAll_concat, chronicle_concat, sinceRestart_concat, if_pos restarts,
        Metronome.after, restarts]
      exact .restart
  · refine ⟨active, ?_, since_le, ticking, ?_⟩
    · rw [origin_concat, if_neg restarts, Pauses.ofHistory_concat, Pauses.lasted_note restarts]
      exact time
    · have after := paced.after restarts
      rw [afterAll_concat, chronicle_concat, sinceRestart_concat, if_neg restarts]
      simpa [beatsGiven, List.countP_append, List.countP_singleton, or_imp, forall_and] using after

end Account

/-- Behind a history the account can be made up at any time. -/
theorem exists_account (period start : Nat) (history : List Moment)
    (ordered : List.Pairwise (· ≤ ·) (start :: (history.map Moment.time ++ [now]))) :
    ∃ active, Account period start history now active := by
  induction history using List.reverseRecOn generalizing now with
  | nil =>
      have began : start ≤ now := List.rel_of_pairwise_cons ordered (List.mem_singleton_self now)
      exact (Account.begin period start).pass began
  | append_singleton history moment ih =>
      rw [List.map_append, ← List.cons_append, List.pairwise_append] at ordered
      obtain ⟨earlier, -, last⟩ := ordered
      obtain ⟨_, account⟩ := ih earlier
      obtain ⟨_, account⟩ := account.concat
      exact account.pass (last moment.time (by simp) now (by simp))

/-- A metronome does not drift, whatever is done to it in whatever order, as long as time does not
go back. Its deadline is never earlier than the time at which it was last started over, with the
pauses since then and a period for each beat that it has given since and for the one that it waits
for. So the beats never take more time than it was ticking for. If no moment since then came so late
that time was dropped, the deadline is no later either. -/
theorem no_drift (period start : Nat) (history : List Moment) (now : Nat)
    (ordered : List.Pairwise (· ≤ ·) (start :: (history.map Moment.time ++ [now]))) :
    let metronome := (Metronome.start period start).afterAll history
    let entries := sinceRestart ((Metronome.start period start).chronicle history)
    let restarted := origin start history
    let paused := (Pauses.ofHistory history).lasted now
    let whole := max period 1
    (∀ deadline, metronome.deadline? = some deadline →
      restarted + paused + (beatsGiven entries + 1) * whole ≤ deadline) ∧
    beatsGiven entries * whole ≤ now - restarted - paused ∧
    ((∀ entry ∈ entries, entry.1.InTime entry.2) → ∀ deadline,
      metronome.deadline? = some deadline →
        deadline = restarted + paused + (beatsGiven entries + 1) * whole) := by
  intro metronome entries restarted paused whole
  obtain ⟨active, account⟩ := exists_account period start history ordered
  have time : restarted + paused + active = now := account.time
  have paced : metronome.Paced now active (beatsGiven entries)
      (∀ entry ∈ entries, entry.1.InTime entry.2) := account.paced
  have period_eq : metronome.period = whole := period_afterAll _ _
  refine ⟨fun deadline ticking => ?_, ?_, fun inTime deadline ticking => ?_⟩
  · have bound := paced.bound
    rw [left_of_deadline? ticking, period_eq] at bound
    rw [Nat.add_one_mul]
    omega
  · have total := paced.toOnPace.total.1
    rw [period_eq] at total
    omega
  · have same := paced.whole inTime
    rw [left_of_deadline? ticking, period_eq] at same
    rw [Nat.add_one_mul]
    omega

/-- A metronome with a period of ten is frozen too late, started over while it is frozen, and then
frozen twice and thawed once. It gives the beat that it waited for six later, and the next one is
due ten later still, although it was polled with some lag. -/
theorem no_drift_paused :
    let history : List Moment := [⟨12, .freeze⟩, ⟨20, .restart⟩, ⟨24, .freeze⟩, ⟨26, .freeze⟩,
      ⟨5000, .thaw⟩, ⟨5013, .poll⟩]
    let entries := sinceRestart ((Metronome.start 10 0).chronicle history)
    List.Pairwise (· ≤ ·) (0 :: (history.map Moment.time ++ [5014])) ∧
      (∀ entry ∈ entries, entry.1.InTime entry.2) ∧
      ((Metronome.start 10 0).afterAll history).deadline? = some (20 + 4976 + (1 + 1) * 10) := by
  intro history entries
  have ordered : List.Pairwise (· ≤ ·) (0 :: (history.map Moment.time ++ [5014])) := by decide
  have inTime : ∀ entry ∈ entries, entry.1.InTime entry.2 := by decide
  have restarted : origin 0 history = 20 := by decide
  have paused : (Pauses.ofHistory history).lasted 5014 = 4976 := by decide
  have given : beatsGiven entries = 1 := by decide
  have whole : max 10 1 = 10 := by decide
  have noDrift := (no_drift 10 0 history 5014 ordered).2.2 inTime
  simp only [restarted, paused, given, whole, entries] at noDrift
  exact ⟨ordered, inTime, congrArg some (noDrift _ rfl)⟩

end Chip8.Metronome
