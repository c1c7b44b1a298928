import Chip8.Broadcast.Audience

/-!
# The archive of a broadcast

A broadcast forgets every value but the latest, and a listener is only a number. An archive forgets
nothing: it keeps all published values, and for each listener the list of those that were published
since it last read. `Archive.Describes` ties the two together, every use of the broadcast keeps
them together, and so an archive predicts what a listener is answered.
-/

namespace Chip8

namespace Broadcast

variable {α : Type}

/-- A wait has a deadline exactly if a clock can hold the sum of its beginning and its timeout. -/
theorem Wait.isSome_deadline? (wait : Wait) :
    wait.deadline?.isSome = decide (wait.begun + wait.timeout < instantEnd) := by
  rw [deadline?, instantAfter?]
  split <;> simp_all

/-- A wait during which nothing is published ends like a read that does not wait, however often the
listener looks, and whatever the clock shows. -/
theorem awaitUntil_of_still (broadcast : Broadcast α) (listener : Listener) (deadline : Nat)
    (looks : List Nat) :
    awaitUntil listener deadline broadcast (looks.map (broadcast, ·)) =
      broadcast.next? listener := by
  induction looks with
  | nil => rfl
  | cons now looks ih =>
      rw [List.map_cons, awaitUntil, ih]
      unfold next?
      by_cases seen : listener.seen = broadcast.published <;> simp [seen]

/-- A read that does not wait leaves the listener at the latest value, also if it has been there. -/
@[simp] theorem snd_next? (broadcast : Broadcast α) (listener : Listener) :
    (broadcast.next? listener).2 = broadcast.subscribe := by
  unfold next? subscribe
  split
  case isTrue seen => rw [← seen]
  case isFalse => rfl

theorem next?_eq (broadcast : Broadcast α) (listener : Listener) :
    broadcast.next? listener = ((broadcast.next? listener).1, broadcast.subscribe) := by
  rw [← broadcast.snd_next? listener]

namespace Use

/-- The value that a use publishes. -/
def published? : Use α → Option α
  | .publish value => some value
  | _ => none

/-- Whether a use is a read by a listener. A wait is none if no clock can hold its deadline. -/
def isReadBy (number : Nat) : Use α → Bool
  | .latest reader | .next reader => reader == number
  | .await reader wait => reader == number && wait.deadline?.isSome
  | _ => false

end Use

end Broadcast

namespace Audience

variable {α : Type} {audience : Audience α} {number : Nat}

/-- A listener has read everything. -/
def markRead (audience : Audience α) (number : Nat) : Audience α :=
  { audience with
    listeners := audience.listeners.setIfInBounds number audience.broadcast.subscribe }

theorem readBy_of_listener {listener : Listener} {value? : Option α}
    {read : Listener → Option (Option α × Listener)}
    (isListener : audience.listeners[number]? = some listener)
    (caughtUp : read listener = some (value?, audience.broadcast.subscribe)) :
    audience.readBy number read = (value?.elim .nothing .value, audience.markRead number) := by
  rw [readBy, isListener]
  simp only [caughtUp, markRead]
  cases value? <;> rfl

/-- If a way of reading leaves everything read, all it does is to mark it so, and nothing if there
is no such listener. -/
theorem snd_readBy (audience : Audience α) (number : Nat)
    {read : Listener → Option (Option α × Listener)}
    (caughtUp : ∀ listener, ∃ value?, read listener = some (value?, audience.broadcast.subscribe)) :
    (audience.readBy number read).2 = audience.markRead number := by
  cases isListener : audience.listeners[number]? with
  | none =>
      have outOfBounds := Array.getElem?_eq_none_iff.mp isListener
      rw [readBy, isListener, markRead, Array.setIfInBounds_eq_of_size_le outOfBounds]
  | some listener =>
      obtain ⟨value?, caughtUp⟩ := caughtUp listener
      rw [readBy_of_listener isListener caughtUp]

/-- A wait that has a deadline, and during which nothing is published, is answered like a read that
does not wait. -/
theorem use_await {wait : Broadcast.Wait} (timed : wait.deadline?.isSome = true)
    (audience : Audience α) (number : Nat) :
    audience.use (.await number wait) = audience.use (.next number) := by
  obtain ⟨deadline, timed⟩ := Option.isSome_iff_exists.mp timed
  rw [Broadcast.Wait.deadline?] at timed
  simp only [use, Broadcast.awaitNext?, timed, Option.map_some, Broadcast.awaitUntil_of_still]

/-- A wait that no clock can hold the deadline of does nothing, also if there is something to
read. -/
theorem use_await_of_untimed {wait : Broadcast.Wait} (untimed : wait.deadline?.isSome = false)
    (audience : Audience α) (number : Nat) :
    audience.use (.await number wait) =
      (if number < audience.listeners.size then .noDeadline else .unknownListener, audience) := by
  rw [Option.isSome_eq_false_iff, Option.isNone_iff_eq_none, Broadcast.Wait.deadline?] at untimed
  simp only [use, readBy, Broadcast.awaitNext?, untimed, Option.map_none]
  split
  · rename_i absent
    rw [if_neg (Nat.not_lt.mpr (Array.getElem?_eq_none_iff.mp absent))]
  · rename_i present
    rw [if_pos (Array.getElem?_eq_some_iff.mp present).1]

/-- All a read does is to mark everything as read for the listener, in whatever way it reads. -/
theorem snd_use_of_isReadBy (audience : Audience α) (number : Nat) {use : Broadcast.Use α}
    (reads : use.isReadBy number = true) : (audience.use use).2 = audience.markRead number := by
  have next_reads : (audience.use (.next number)).2 = audience.markRead number :=
    audience.snd_readBy number fun listener =>
      ⟨_, congrArg some (audience.broadcast.next?_eq listener)⟩
  cases use with
  | publish | subscribe | clone | look => cases reads
  | latest reader =>
      obtain rfl := eq_of_beq reads
      exact audience.snd_readBy reader fun _ => ⟨_, rfl⟩
  | next reader =>
      obtain rfl := eq_of_beq reads
      exact next_reads
  | await reader wait =>
      obtain ⟨same, timed⟩ := Bool.and_eq_true_iff.mp reads
      obtain rfl := eq_of_beq same
      rw [use_await timed]
      exact next_reads

end Audience

/-- All published values, the oldest first, and for each listener those that were published since
it last read. -/
structure Archive (α : Type) where
  published : List α
  unread : List (List α)
  deriving DecidableEq, Repr

namespace Archive

variable {α : Type}

/-- Nothing published, and nobody who listens. -/
def empty : Archive α := ⟨[], []⟩

/-- The latest published value, or the initial one. -/
def newest (archive : Archive α) (initial : α) : α := archive.published.getLast?.getD initial

/-- Put a use of the broadcast on record. What is published is unread by every listener; for one
that joins by itself nothing is unread, for one that is cloned the same as for the other; and
nothing remains unread by a listener that reads, in whatever way. A wait that no clock can hold the
deadline of is no read. -/
def record (archive : Archive α) : Broadcast.Use α → Archive α
  | .publish value =>
      ⟨archive.published ++ [value], archive.unread.map fun unread => unread ++ [value]⟩
  | .subscribe => { archive with unread := archive.unread ++ [[]] }
  | .clone number => { archive with unread := archive.unread ++ archive.unread[number]?.toList }
  | .latest number | .next number => { archive with unread := archive.unread.set number [] }
  | .await number wait =>
      if wait.deadline?.isSome then { archive with unread := archive.unread.set number [] }
      else archive
  | .look => archive

/-- Put uses of the broadcast on record in order. -/
def recordAll (archive : Archive α) (uses : List (Broadcast.Use α)) : Archive α :=
  uses.foldl record archive

/-- The archive of a broadcast that was used in some way from the beginning. -/
def ofUses (uses : List (Broadcast.Use α)) : Archive α := empty.recordAll uses

theorem recordAll_append (archive : Archive α) (earlier later : List (Broadcast.Use α)) :
    archive.recordAll (earlier ++ later) = (archive.recordAll earlier).recordAll later :=
  List.foldl_append

theorem published_record (archive : Archive α) (use : Broadcast.Use α) :
    (archive.record use).published = archive.published ++ use.published?.toList := by
  cases use with
  | await number wait =>
      rw [record]
      split <;> simp [Broadcast.Use.published?]
  | publish | subscribe | clone | latest | next | look => simp [record, Broadcast.Use.published?]

theorem published_recordAll (archive : Archive α) (uses : List (Broadcast.Use α)) :
    (archive.recordAll uses).published =
      archive.published ++ uses.filterMap Broadcast.Use.published? := by
  induction uses generalizing archive with
  | nil => simp [recordAll]
  | cons use rest ih =>
      rw [recordAll, List.foldl_cons, ← recordAll, ih, published_record, List.append_assoc]
      cases value : use.published? <;> simp [value]

/-- The archive keeps exactly what was published, in order. -/
theorem published_ofUses (uses : List (Broadcast.Use α)) :
    (ofUses uses).published = uses.filterMap Broadcast.Use.published? :=
  published_recordAll empty uses

/-- A use that is neither a publication nor a read by a listener leaves unread what was unread. -/
theorem getElem?_unread_record {archive : Archive α} {use : Broadcast.Use α} {number : Nat}
    {unread : List α} (isUnread : archive.unread[number]? = some unread)
    (quiet : use.published? = none) (elsewhere : use.isReadBy number = false) :
    (archive.record use).unread[number]? = some unread := by
  have inBounds : number < archive.unread.length := (List.getElem?_eq_some_iff.mp isUnread).1
  cases use with
  | await reader wait =>
      rw [record]
      split
      · simp_all [Broadcast.Use.isReadBy]
      · exact isUnread
  | publish | subscribe | clone | latest | next | look =>
      simp_all [record, Broadcast.Use.published?, Broadcast.Use.isReadBy,
        List.getElem?_append_left]

/-- Nothing is unread by a listener that has just read. -/
theorem getElem?_unread_record_of_isReadBy {archive : Archive α} {use : Broadcast.Use α}
    {number : Nat} {unread : List α} (isUnread : archive.unread[number]? = some unread)
    (reads : use.isReadBy number = true) : (archive.record use).unread[number]? = some [] := by
  have inBounds : number < archive.unread.length := (List.getElem?_eq_some_iff.mp isUnread).1
  cases use <;> simp_all [record, Broadcast.Use.isReadBy]

/-- While nothing is published, what was unread by a listener remains so until it reads. -/
theorem getElem?_unread_recordAll {archive : Archive α} {number : Nat} {unread : List α}
    (isUnread : archive.unread[number]? = some unread) {uses : List (Broadcast.Use α)}
    (quiet : ∀ use ∈ uses, use.published? = none) :
    (archive.recordAll uses).unread[number]? =
      some (if uses.any fun use => use.isReadBy number then [] else unread) := by
  induction uses generalizing archive unread with
  | nil => simpa [recordAll] using isUnread
  | cons use rest ih =>
      have quietNow : use.published? = none := quiet use List.mem_cons_self
      have quietLater : ∀ use ∈ rest, use.published? = none :=
        fun use mem => quiet use (List.mem_cons_of_mem _ mem)
      rw [recordAll, List.foldl_cons, ← recordAll]
      by_cases reads : use.isReadBy number = true
      · rw [ih (getElem?_unread_record_of_isReadBy isUnread reads) quietLater]
        simp [reads]
      · rw [Bool.not_eq_true] at reads
        rw [ih (getElem?_unread_record isUnread quietNow reads) quietLater]
        simp [reads]

/-! ## Archives and audiences -/

/-- An audience is what an archive of it says: the broadcast holds the newest value and has counted
the publications, a listener is the number of publications less those it has not read, and these
are the last ones. -/
structure Describes (archive : Archive α) (initial : α) (audience : Audience α) : Prop where
  broadcast : audience.broadcast = ⟨archive.newest initial, archive.published.length⟩
  listeners : audience.listeners =
    (archive.unread.map fun unread =>
      Listener.mk (archive.published.length - unread.length)).toArray
  suffix : ∀ unread ∈ archive.unread, unread <:+ archive.published

theorem describes_empty (initial : α) : empty.Describes initial (.ofInitial initial) :=
  ⟨rfl, rfl, fun _ mem => absurd mem List.not_mem_nil⟩

namespace Describes

variable {archive : Archive α} {initial : α} {audience : Audience α} {number : Nat}
  {unread : List α}

theorem getElem?_listeners (describes : archive.Describes initial audience) (number : Nat) :
    audience.listeners[number]? =
      archive.unread[number]?.map fun unread => ⟨archive.published.length - unread.length⟩ := by
  rw [describes.listeners, List.getElem?_toArray, List.getElem?_map]

/-- Every listener is on record. -/
theorem exists_unread (describes : archive.Describes initial audience)
    (present : number < audience.listeners.size) :
    ∃ unread, archive.unread[number]? = some unread := by
  rw [describes.listeners, List.size_toArray, List.length_map] at present
  exact ⟨_, List.getElem?_eq_getElem present⟩

theorem length_le (describes : archive.Describes initial audience)
    (isUnread : archive.unread[number]? = some unread) :
    unread.length ≤ archive.published.length :=
  (describes.suffix unread (List.mem_of_getElem? isUnread)).length_le

/-- A listener has read everything exactly if nothing is unread by it. -/
theorem seen_eq_iff (describes : archive.Describes initial audience)
    (isUnread : archive.unread[number]? = some unread) :
    archive.published.length - unread.length = archive.published.length ↔ unread = [] := by
  have := describes.length_le isUnread
  rw [← List.length_eq_zero_iff]
  omega

/-- The latest value is the newest one on record, whether or not the listener has read it. -/
theorem answer_latest (describes : archive.Describes initial audience)
    (isUnread : archive.unread[number]? = some unread) :
    (audience.use (.latest number)).1 = .value (archive.newest initial) := by
  have isListener := describes.getElem?_listeners number
  rw [isUnread] at isListener
  rw [Audience.use, Audience.readBy_of_listener isListener rfl, describes.broadcast]
  rfl

/-- The next value is the newest one on record if anything is unread, and there is none
otherwise. -/
theorem answer_next (describes : archive.Describes initial audience)
    (isUnread : archive.unread[number]? = some unread) :
    (audience.use (.next number)).1 =
      if unread.isEmpty then .nothing else .value (archive.newest initial) := by
  have isListener := describes.getElem?_listeners number
  rw [isUnread] at isListener
  rw [Audience.use,
    Audience.readBy_of_listener isListener (congrArg some (Broadcast.next?_eq _ _)),
    Broadcast.next?, describes.broadcast]
  simp only [describes.seen_eq_iff isUnread, ← List.isEmpty_iff]
  split <;> rfl

/-- A listener for whom everything is marked as read has nothing unread. -/
theorem markRead (describes : archive.Describes initial audience) (number : Nat) :
    Describes { archive with unread := archive.unread.set number [] } initial
      (audience.markRead number) where
  broadcast := describes.broadcast
  listeners := by
    simp [Audience.markRead, describes.listeners, describes.broadcast, Broadcast.subscribe,
      List.map_set]
  suffix := by
    intro unread mem
    obtain mem | rfl := List.mem_or_eq_of_mem_set mem
    · exact describes.suffix unread mem
    · exact List.nil_suffix

/-- A listener that joins is on record with what is unread by it. -/
theorem join (describes : archive.Describes initial audience)
    (suffix : unread <:+ archive.published) :
    Describes { archive with unread := archive.unread ++ [unread] } initial
      (audience.join ⟨archive.published.length - unread.length⟩).2 where
  broadcast := describes.broadcast
  listeners := by simp [Audience.join, describes.listeners]
  suffix := by
    intro other mem
    obtain mem | mem := List.mem_append.mp mem
    · exact describes.suffix other mem
    · rwa [List.mem_singleton.mp mem]

/-- A published value is the newest one, and unread by every listener. -/
theorem publish (describes : archive.Describes initial audience) (value : α) :
    (archive.record (.publish value)).Describes initial (audience.use (.publish value)).2 where
  broadcast := by
    simp [Audience.use, record, newest, Broadcast.publish, describes.broadcast]
  listeners := by
    simp [Audience.use, record, describes.listeners]
  suffix := by
    intro unread mem
    obtain ⟨earlier, isEarlier, rfl⟩ := List.mem_map.mp mem
    obtain ⟨read, split⟩ := describes.suffix earlier isEarlier
    exact ⟨read, by rw [record, ← split, List.append_assoc]⟩

/-- Every use of a broadcast keeps its archive. -/
theorem use (describes : archive.Describes initial audience) (use : Broadcast.Use α) :
    (archive.record use).Describes initial (audience.use use).2 := by
  cases use with
  | publish value => exact describes.publish value
  | subscribe =>
      have joined := describes.join List.nil_suffix
      rwa [Audience.use, Broadcast.subscribe, describes.broadcast]
  | clone number =>
      cases known : archive.unread[number]? with
      | none => simpa [record, Audience.use, describes.getElem?_listeners, known] using describes
      | some unread =>
          have joined := describes.join (describes.suffix unread (List.mem_of_getElem? known))
          simpa [record, Audience.use, describes.getElem?_listeners, known] using joined
  | latest number | next number =>
      rw [audience.snd_use_of_isReadBy number]
      · exact describes.markRead number
      · exact beq_self_eq_true number
  | await number wait =>
      cases timed : wait.deadline?.isSome with
      | true =>
          rw [audience.snd_use_of_isReadBy number (by simp [Broadcast.Use.isReadBy, timed])]
          simpa [record, timed] using describes.markRead number
      | false =>
          rw [Audience.use_await_of_untimed timed]
          simpa [record, timed] using describes
  | look => exact describes

/-- Uses of a broadcast keep its archive. -/
theorem useAll (describes : archive.Describes initial audience) (uses : List (Broadcast.Use α)) :
    (archive.recordAll uses).Describes initial (audience.useAll uses).2 := by
  induction uses generalizing archive audience with
  | nil => exact describes
  | cons use rest ih => exact ih (describes.use use)

end Describes

/-- The archive of a broadcast that was used in some way from the beginning describes what has
become of it. -/
theorem describes_ofUses (initial : α) (uses : List (Broadcast.Use α)) :
    (ofUses uses).Describes initial ((Audience.ofInitial initial).useAll uses).2 :=
  (describes_empty initial).useAll uses

end Archive

end Chip8
