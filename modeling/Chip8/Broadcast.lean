import Chip8.Instant

/-!
# Broadcasts

A broadcast holds the latest of the values that were published on it, and their number. A listener
is no more than the number of the latest value it has read, so it misses values but never reads one
twice, and reading disturbs no other listener. A listener may also wait for a value. It then
computes a deadline before anything else, and this fails if no clock can hold the deadline.
-/

namespace Chip8

/-- The latest published value, and how many values were published. -/
structure Broadcast (α : Type) where
  value : α
  published : Nat
  deriving DecidableEq, Repr

/-- The number of the latest value that was read. -/
structure Listener where
  seen : Nat
  deriving DecidableEq, Repr

namespace Broadcast

variable {α : Type}

/-- A broadcast on which nothing was published yet. -/
def ofInitial (initial : α) : Broadcast α := ⟨initial, 0⟩

/-- Publish a value. -/
def publish (broadcast : Broadcast α) (value : α) : Broadcast α :=
  ⟨value, broadcast.published + 1⟩

/-- A new listener, for whom everything published so far counts as read. -/
def subscribe (broadcast : Broadcast α) : Listener := ⟨broadcast.published⟩

/-- A listener that has just read the latest value, and the value. -/
def latest (broadcast : Broadcast α) (_listener : Listener) : α × Listener :=
  (broadcast.value, broadcast.subscribe)

/-- The latest value if the listener has not read it, and the listener behind it. -/
def next? (broadcast : Broadcast α) (listener : Listener) : Option α × Listener :=
  if listener.seen = broadcast.published then (none, listener)
  else (some broadcast.value, broadcast.subscribe)

/-- Look for a value that the listener has not read, again and again until a deadline. When there is
none, the listener looks at the clock: `looks` are the broadcasts it finds one after the other, each
with what the clock shows then, and `last` is the broadcast it finds when the time is up. -/
def awaitUntil (listener : Listener) (deadline : Nat) (last : Broadcast α) :
    List (Broadcast α × Nat) → Option α × Listener
  | [] => last.next? listener
  | (found, now) :: looks =>
      if listener.seen = found.published then
        if deadline ≤ now then (none, listener) else awaitUntil listener deadline last looks
      else (some found.value, found.subscribe)

/-- Wait for a value that the listener has not read, from an instant on and for no longer than a
timeout. The deadline is computed before the first look: if no clock can hold it, the wait fails,
also if there is something to read. -/
def awaitNext? (listener : Listener) (begun timeout : Nat) (last : Broadcast α)
    (looks : List (Broadcast α × Nat)) : Option (Option α × Listener) :=
  (instantAfter? begun timeout).map fun deadline => awaitUntil listener deadline last looks

end Broadcast

end Chip8
