import Chip8.Proofs.Broadcast.Archive

/-!
# What listeners are given

A listener may miss values, but it is given them in the order of their publication, none of them
twice, and the last one sooner or later, whatever the other listeners do. Three facts are behind
this: a listener never falls back in the archive, which puts its values in order
(`Archive.Describes.pairwise_given`); what was unread before a pause in the publications is unread
after it, unless the listener has read; and a read changes nothing but the position of its listener,
so that whoever does not look there cannot tell whether it took place (`Audience.AlikeBut`).
-/

namespace Chip8

variable {α : Type}

/-! ## Values in order -/

/-- Whether a use asks for the next value for a listener. A wait does not get that far if no clock
can hold its deadline. -/
def Broadcast.Use.asksNextFor (number : Nat) : Use α → Bool
  | .next reader => reader == number
  | .await reader wait => reader == number && wait.deadline?.isSome
  | _ => false

namespace Broadcast.Use

variable {use : Use α} {number : Nat}

theorem isReadBy_of_asksNextFor (asks : use.asksNextFor number = true) :
    use.isReadBy number = true := by
  cases use <;> first | exact asks | cases asks

theorem published?_of_isReadBy (reads : use.isReadBy number = true) : use.published? = none := by
  cases use with
  | publish => cases reads
  | subscribe | clone | latest | next | await | look => rfl

end Broadcast.Use

namespace Audience

theorem use_of_asksNextFor (audience : Audience α) {use : Broadcast.Use α} {number : Nat}
    (asks : use.asksNextFor number = true) : audience.use use = audience.use (.next number) := by
  cases use with
  | publish | subscribe | clone | latest | look => cases asks
  | next reader => rw [eq_of_beq asks]
  | await reader wait =>
      obtain ⟨same, timed⟩ := Bool.and_eq_true_iff.mp asks
      rw [use_await timed, eq_of_beq same]

/-- The value that a use gives a listener as its next one, with the number of its publication. -/
def gives? (audience : Audience α) (number : Nat) (use : Broadcast.Use α) : Option (Nat × α) :=
  match use.asksNextFor number, (audience.use use).1 with
  | true, .value value => some (audience.broadcast.published, value)
  | _, _ => none

/-- The values that uses give a listener as its next ones, with the numbers of their
publications. -/
def given (audience : Audience α) (number : Nat) : List (Broadcast.Use α) → List (Nat × α)
  | [] => []
  | use :: rest => (audience.gives? number use).toList ++ (audience.use use).2.given number rest

end Audience

namespace Archive

/-- How many of the published values a listener has read or missed. -/
def position (archive : Archive α) (unread : List α) : Nat :=
  archive.published.length - unread.length

/-- The newest value is the last one on record. -/
theorem getElem?_published_newest {archive : Archive α} (initial : α)
    (nonempty : 0 < archive.published.length) :
    archive.published[archive.published.length - 1]? = some (archive.newest initial) := by
  have inBounds : archive.published.length - 1 < archive.published.length := by omega
  simp [newest, List.getLast?_eq_getElem?, inBounds]

/-- A listener never falls back. -/
theorem position_le_record {archive : Archive α} {number : Nat} {unread : List α}
    (isUnread : archive.unread[number]? = some unread) (use : Broadcast.Use α) :
    ∃ later, (archive.record use).unread[number]? = some later ∧
      archive.position unread ≤ (archive.record use).position later := by
  by_cases reads : use.isReadBy number = true
  case pos =>
    refine ⟨[], getElem?_unread_record_of_isReadBy isUnread reads, ?_⟩
    simp [position, published_record, Broadcast.Use.published?_of_isReadBy reads]
  case neg =>
    rw [Bool.not_eq_true] at reads
    cases published : use.published? with
    | none =>
        refine ⟨unread, getElem?_unread_record isUnread published reads, ?_⟩
        simp [position, published_record, published]
    | some value =>
        obtain rfl : use = .publish value := by
          cases use <;> simp_all [Broadcast.Use.published?]
        exact ⟨unread ++ [value], by simp [record, isUnread], by simp [position, record]⟩

namespace Describes

variable {archive : Archive α} {initial : α} {audience : Audience α} {number : Nat}
  {unread : List α}

/-- What a listener is given is the newest value, and it was unread. -/
theorem eq_of_gives? (describes : archive.Describes initial audience) {use : Broadcast.Use α}
    {entry : Nat × α} (gives : audience.gives? number use = some entry) :
    use.isReadBy number = true ∧ entry = (archive.published.length, archive.newest initial) ∧
      ∃ first rest, archive.unread[number]? = some (first :: rest) := by
  unfold Audience.gives? at gives
  split at gives
  case h_2 => cases gives
  case h_1 value asks answer =>
    rw [audience.use_of_asksNextFor asks] at answer
    cases known : archive.unread[number]? with
    | none =>
        have isListener := describes.getElem?_listeners number
        rw [known] at isListener
        simp [Audience.use, Audience.readBy, isListener] at answer
    | some unread =>
        rw [describes.answer_next known] at answer
        cases unread with
        | nil => cases answer
        | cons first rest =>
            cases answer
            cases gives
            exact ⟨Broadcast.Use.isReadBy_of_asksNextFor asks, by rw [describes.broadcast],
              first, rest, rfl⟩

/-- A listener is given nothing that it has read or missed. -/
theorem position_lt_of_mem_given (describes : archive.Describes initial audience)
    (isUnread : archive.unread[number]? = some unread) {uses : List (Broadcast.Use α)}
    {entry : Nat × α} (mem : entry ∈ audience.given number uses) :
    archive.position unread < entry.1 := by
  induction uses generalizing archive audience unread with
  | nil => cases mem
  | cons use rest ih =>
      obtain now | later := List.mem_append.mp mem
      · obtain ⟨-, rfl, first, others, known⟩ := describes.eq_of_gives? (Option.mem_toList.mp now)
        obtain rfl : unread = first :: others := by
          rw [isUnread] at known
          exact Option.some.inj known
        have := describes.length_le isUnread
        simp only [position, List.length_cons] at this ⊢
        omega
      · obtain ⟨further, isFurther, le⟩ := position_le_record isUnread use
        exact Nat.lt_of_le_of_lt le (ih (describes.use use) isFurther later)

/-- The values a listener is given belong to later and later publications. -/
theorem pairwise_given (describes : archive.Describes initial audience) (number : Nat)
    (uses : List (Broadcast.Use α)) :
    (audience.given number uses).Pairwise fun earlier later => earlier.1 < later.1 := by
  induction uses generalizing archive audience with
  | nil => exact .nil
  | cons use rest ih =>
      -- A listener that is given a value has nothing unread, so that what it is given later
      -- lies beyond.
      refine List.pairwise_append.mpr ⟨?_, ih (describes.use use), ?_⟩
      · cases audience.gives? number use <;> simp
      · intro entry now other later
        obtain ⟨reads, rfl, first, others, isUnread⟩ :=
          describes.eq_of_gives? (Option.mem_toList.mp now)
        have nothing := getElem?_unread_record_of_isReadBy isUnread reads
        have lt := (describes.use use).position_lt_of_mem_given nothing later
        simpa [position, published_record, Broadcast.Use.published?_of_isReadBy reads] using lt

/-- The value a listener is given is that of the publication. -/
theorem getElem?_published_of_mem_given (describes : archive.Describes initial audience)
    {uses : List (Broadcast.Use α)} {entry : Nat × α} (mem : entry ∈ audience.given number uses) :
    0 < entry.1 ∧ (archive.recordAll uses).published[entry.1 - 1]? = some entry.2 := by
  induction uses generalizing archive audience with
  | nil => cases mem
  | cons use rest ih =>
      obtain now | later := List.mem_append.mp mem
      · obtain ⟨-, rfl, first, others, isUnread⟩ :=
          describes.eq_of_gives? (Option.mem_toList.mp now)
        have nonempty : 0 < archive.published.length :=
          Nat.lt_of_lt_of_le (Nat.succ_pos _) (describes.length_le isUnread)
        refine ⟨nonempty, ?_⟩
        rw [published_recordAll, List.getElem?_append_left (Nat.sub_one_lt_of_lt nonempty)]
        exact getElem?_published_newest initial nonempty
      · exact ih (describes.use use) later

end Describes

end Archive

/-! ## Reads that nobody else notices -/

namespace Audience

/-- Audiences that differ at most in what one listener has read. -/
structure AlikeBut (number : Nat) (one other : Audience α) : Prop where
  broadcast : one.broadcast = other.broadcast
  size : one.listeners.size = other.listeners.size
  listeners : ∀ reader, reader ≠ number → one.listeners[reader]? = other.listeners[reader]?

theorem AlikeBut.refl (number : Nat) (audience : Audience α) : AlikeBut number audience audience :=
  ⟨rfl, rfl, fun _ _ => rfl⟩

/-- Marking everything as read for a listener concerns no other listener. -/
theorem alikeBut_markRead (audience : Audience α) (number : Nat) :
    AlikeBut number (audience.markRead number) audience where
  broadcast := rfl
  size := Array.size_setIfInBounds
  listeners := fun _ other => Array.getElem?_setIfInBounds_ne other.symm

namespace AlikeBut

variable {one other further : Audience α} {number : Nat}

theorem trans (first : AlikeBut number one other) (second : AlikeBut number other further) :
    AlikeBut number one further where
  broadcast := first.broadcast.trans second.broadcast
  size := first.size.trans second.size
  listeners := fun reader ne => (first.listeners reader ne).trans (second.listeners reader ne)

/-- Whoever joins is told the same. -/
theorem join (alike : AlikeBut number one other) (listener : Listener) :
    (one.join listener).1 = (other.join listener).1 ∧
      AlikeBut number (one.join listener).2 (other.join listener).2 := by
  refine ⟨congrArg Broadcast.Answer.joined alike.size, alike.broadcast, ?_, ?_⟩
  · simp [Audience.join, alike.size]
  · intro reader ne
    simp [Audience.join, Array.getElem?_push, alike.size, alike.listeners reader ne]

/-- Another listener is told the same when it reads. -/
theorem readBy (alike : AlikeBut number one other) {reader : Nat} (ne : reader ≠ number)
    (read : Listener → Option (Option α × Listener)) :
    (one.readBy reader read).1 = (other.readBy reader read).1 ∧
      AlikeBut number (one.readBy reader read).2 (other.readBy reader read).2 := by
  cases known : other.listeners[reader]? with
  | none => simpa [Audience.readBy, alike.listeners reader ne, known] using alike
  | some listener =>
      simp only [Audience.readBy, alike.listeners reader ne, known]
      cases read listener with
      | none => exact ⟨rfl, alike⟩
      | some outcome =>
          refine ⟨rfl, alike.broadcast, ?_, ?_⟩
          · simp [alike.size]
          · intro another anotherNe
            simp [Array.getElem?_setIfInBounds, alike.size, alike.listeners another anotherNe]

/-- Whatever does not look where the listener stands is answered the same. -/
theorem use (alike : AlikeBut number one other) {use : Broadcast.Use α}
    (elsewhere : use.isReadBy number = false) (notCloned : use ≠ .clone number) :
    (one.use use).1 = (other.use use).1 ∧ AlikeBut number (one.use use).2 (other.use use).2 := by
  cases use with
  | publish value =>
      refine ⟨rfl, ?_, alike.size, alike.listeners⟩
      rw [Audience.use, Audience.use, alike.broadcast]
  | subscribe =>
      rw [Audience.use, Audience.use, alike.broadcast]
      exact alike.join _
  | clone reader =>
      have ne : reader ≠ number := fun same => notCloned (same ▸ rfl)
      simp only [Audience.use, alike.listeners reader ne]
      split
      · exact ⟨rfl, alike⟩
      · exact alike.join _
  | latest reader | next reader =>
      have ne : reader ≠ number := ne_of_beq_false elsewhere
      simp only [Audience.use, alike.broadcast]
      exact alike.readBy ne _
  | await reader wait =>
      cases timed : wait.deadline?.isSome with
      | true =>
          have ne : reader ≠ number := by simpa [Broadcast.Use.isReadBy, timed] using elsewhere
          simp only [Audience.use, alike.broadcast]
          exact alike.readBy ne _
      | false =>
          rw [use_await_of_untimed timed, use_await_of_untimed timed, alike.size]
          exact ⟨rfl, alike⟩
  | look =>
      refine ⟨?_, alike⟩
      rw [Audience.use, Audience.use, alike.broadcast]

end AlikeBut

/-- The answers to all of some uses but the reads by one listener. -/
def answersBut (audience : Audience α) (number : Nat) (uses : List (Broadcast.Use α)) :
    List (Broadcast.Answer α) :=
  ((uses.zip (audience.useAll uses).1).filter fun entry => !entry.1.isReadBy number).map Prod.snd

/-- The reads by a listener make no difference to the answers that anybody else is given, as long
as nobody joins at its place. -/
theorem AlikeBut.answersBut_eq {one other : Audience α} {number : Nat}
    (alike : AlikeBut number one other) {uses : List (Broadcast.Use α)}
    (notCloned : .clone number ∉ uses) :
    one.answersBut number uses =
      (other.useAll (uses.filter fun use => !use.isReadBy number)).1 := by
  induction uses generalizing one other with
  | nil => rfl
  | cons use rest ih =>
      have notNow : use ≠ .clone number := fun same => notCloned (same ▸ List.mem_cons_self)
      have notLater : .clone number ∉ rest := fun mem => notCloned (List.mem_cons_of_mem _ mem)
      by_cases reads : use.isReadBy number = true
      case pos =>
        -- Only one of the two audiences sees the read.
        have stillAlike : AlikeBut number (one.use use).2 other := by
          rw [one.snd_use_of_isReadBy number reads]
          exact (one.alikeBut_markRead number).trans alike
        simpa [answersBut, useAll, reads] using ih stillAlike notLater
      case neg =>
        rw [Bool.not_eq_true] at reads
        obtain ⟨same, stillAlike⟩ := alike.use reads notNow
        have sameLater := ih stillAlike notLater
        simp_all [answersBut, useAll]

/-! ## A broadcast from its beginning -/

/-- The value that was published last is given to whoever was there, unless they have read since. -/
theorem answer_next_of_last (initial : α) {before after : List (Broadcast.Use α)} {value : α}
    {number : Nat} (quiet : ∀ use ∈ after, use.published? = none)
    (present : number < ((Audience.ofInitial initial).useAll before).2.listeners.size) :
    (((Audience.ofInitial initial).useAll (before ++ .publish value :: after)).2.use
        (.next number)).1 =
      if after.any fun use => use.isReadBy number then .nothing else .value value := by
  have describes := Archive.describes_ofUses initial (before ++ .publish value :: after)
  obtain ⟨unread, isUnread⟩ := (Archive.describes_ofUses initial before).exists_unread present
  -- Everyone who is there has the value unread, and from then on only reads take it away.
  have atPublication : ((Archive.ofUses before).record (.publish value)).unread[number]? =
      some (unread ++ [value]) := by
    simp [Archive.record, isUnread]
  have now : (Archive.ofUses (before ++ .publish value :: after)).unread[number]? =
      some (if after.any fun use => use.isReadBy number then [] else unread ++ [value]) := by
    rw [← Archive.getElem?_unread_recordAll atPublication quiet, Archive.ofUses,
      Archive.recordAll_append]
    rfl
  have newest : (Archive.ofUses (before ++ .publish value :: after)).newest initial = value := by
    have nothingSince : after.filterMap Broadcast.Use.published? = [] :=
      List.filterMap_eq_nil_iff.mpr quiet
    simp [Archive.newest, Archive.published_ofUses, Broadcast.Use.published?, nothingSince]
  rw [describes.answer_next now, newest]
  split <;> simp_all

/-- Every listener is given the newest value, in order, and never twice. However a broadcast and its
listeners were used since the beginning,

* a listener that asks for the next value is given one exactly if something is unread by it, and
  then the newest; it is the same if it waits, unless no clock can hold the deadline, in which case
  the wait fails and nothing else happens; asking for the latest value the listener is always given
  the newest, and however it reads it has nothing unread afterwards;
* the values a listener was given as next ones belong to later and later publications;
* its reads change nothing but what it has read itself, and from then on nobody else is answered
  differently because of them, unless by joining at its place;
* a value after which nothing was published is given to everyone who was there, unless they have
  read since; and
* all listeners are on record, and their numbers never exceed the number of publications. -/
theorem newest_in_order_never_twice (initial : α) (uses : List (Broadcast.Use α)) (number : Nat) :
    let audience := ((Audience.ofInitial initial).useAll uses).2
    let archive := Archive.ofUses uses
    (number < audience.listeners.size →
      ∃ unread, archive.unread[number]? = some unread ∧ unread <:+ archive.published ∧
        (audience.use (.next number)).1 =
          (if unread.isEmpty then .nothing else .value (archive.newest initial)) ∧
        (∀ wait, audience.use (.await number wait) =
          if wait.begun + wait.timeout < instantEnd then audience.use (.next number)
          else (.noDeadline, audience)) ∧
        (audience.use (.latest number)).1 = .value (archive.newest initial) ∧
        ∀ use, use.isReadBy number = true →
          ((audience.use use).2.use (.next number)).1 = .nothing) ∧
    (((Audience.ofInitial initial).given number uses).Pairwise
        (fun earlier later => earlier.1 < later.1) ∧
      ∀ entry ∈ (Audience.ofInitial initial).given number uses,
        0 < entry.1 ∧ archive.published[entry.1 - 1]? = some entry.2) ∧
    ((∀ use, use.isReadBy number = true → AlikeBut number (audience.use use).2 audience) ∧
      ∀ later, .clone number ∉ later →
        audience.answersBut number later =
          (audience.useAll (later.filter fun use => !use.isReadBy number)).1) ∧
    (∀ before value after, uses = before ++ .publish value :: after →
      (∀ use ∈ after, use.published? = none) →
      number < ((Audience.ofInitial initial).useAll before).2.listeners.size →
      (audience.use (.next number)).1 =
        if after.any fun use => use.isReadBy number then .nothing else .value value) ∧
    audience.listeners.size = archive.unread.length ∧
    audience.broadcast.published = archive.published.length ∧
    ∀ listener ∈ audience.listeners, listener.seen ≤ archive.published.length := by
  intro audience archive
  have describes : archive.Describes initial audience := Archive.describes_ofUses initial uses
  refine ⟨fun present => ?asked, ⟨?inOrder, ?ofPublication⟩, ⟨?noticed, ?answered⟩,
    ?delivered, ?onRecord, ?counted, ?behind⟩
  case asked =>
    obtain ⟨unread, isUnread⟩ := describes.exists_unread present
    refine ⟨unread, isUnread, describes.suffix unread (List.mem_of_getElem? isUnread),
      describes.answer_next isUnread, fun wait => ?waited, describes.answer_latest isUnread,
      fun use reads => ?afterwards⟩
    case waited =>
      by_cases timed : wait.begun + wait.timeout < instantEnd
      · rw [if_pos timed, use_await (by rw [wait.isSome_deadline?, decide_eq_true timed])]
      · have untimed : wait.deadline?.isSome = false := by
          rw [wait.isSome_deadline?, decide_eq_false timed]
        rw [if_neg timed, use_await_of_untimed untimed, if_pos present]
    case afterwards =>
      exact (describes.use use).answer_next
        (Archive.getElem?_unread_record_of_isReadBy isUnread reads)
  case inOrder => exact (Archive.describes_empty initial).pairwise_given number uses
  case ofPublication =>
    exact fun entry mem => (Archive.describes_empty initial).getElem?_published_of_mem_given mem
  case noticed =>
    intro use reads
    rw [audience.snd_use_of_isReadBy number reads]
    exact audience.alikeBut_markRead number
  case answered =>
    intro later notCloned
    exact (AlikeBut.refl number audience).answersBut_eq notCloned
  case delivered =>
    rintro before value after rfl quiet present
    exact answer_next_of_last initial quiet present
  case onRecord => rw [describes.listeners, List.size_toArray, List.length_map]
  case counted => rw [describes.broadcast]
  case behind =>
    intro listener mem
    rw [describes.listeners, List.mem_toArray] at mem
    obtain ⟨unread, -, rfl⟩ := List.mem_map.mp mem
    exact Nat.sub_le _ _

/-- A second listener joins between two values at the place of a first one, which then reads. The
second one is given the newer value, and is given it only once, whether or not the first one reads
again. -/
theorem newest_in_order_never_twice_clone :
    let uses : List (Broadcast.Use Nat) := [.subscribe, .publish 5, .clone 0, .publish 7, .next 0]
    let audience := ((Audience.ofInitial 0).useAll uses).2
    1 < audience.listeners.size ∧
      (audience.use (.next 1)).1 = .value 7 ∧
      ((audience.use (.latest 1)).2.use (.next 1)).1 = .nothing ∧
      (audience.use (.next 0)).1 = .nothing ∧
      audience.answersBut 0 [.latest 0, .next 1, .next 0, .await 1 ⟨0, 3, [1, 2]⟩] =
        [.value 7, .nothing] := by
  intro uses audience
  have present : 1 < audience.listeners.size := by decide
  obtain ⟨asked, -⟩ := newest_in_order_never_twice 0 uses 1
  obtain ⟨-, -, ⟨-, answered⟩, delivered, -⟩ := newest_in_order_never_twice 0 uses 0
  obtain ⟨unread, isUnread, -, next, -, -, afterwards⟩ := asked present
  obtain rfl : [5, 7] = unread := Option.some.inj isUnread
  refine ⟨present, next, afterwards (.latest 1) rfl, ?_, ?_⟩
  · exact delivered [.subscribe, .publish 5, .clone 0] 7 [.next 0] rfl (by decide) (by decide)
  · exact answered [.latest 0, .next 1, .next 0, .await 1 ⟨0, 3, [1, 2]⟩] (by decide)

/-- Not every wait gives what is unread. A listener for whom a value was published and who waits for
the longest of all durations, a nanosecond short of `2 ^ 64` seconds, is not given it: no clock can
hold the deadline. -/
theorem await_refuses_longest :
    ¬∀ (initial : Nat) (uses : List (Broadcast.Use Nat)) (number : Nat) (unread : List Nat)
      (wait : Broadcast.Wait), (Archive.ofUses uses).unread[number]? = some unread →
        (((Audience.ofInitial initial).useAll uses).2.use (.await number wait)).1 =
          if unread.isEmpty then .nothing else .value ((Archive.ofUses uses).newest initial) := by
  intro gives
  have given := gives 0 [.subscribe, .publish 1] 0 [1] ⟨0, UInt64.size * 1000000000 - 1, []⟩ rfl
  rw [use_await_of_untimed (by decide)] at given
  cases given

end Audience

end Chip8
