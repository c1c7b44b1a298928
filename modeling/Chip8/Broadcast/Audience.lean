import Chip8.Broadcast

/-!
# Audiences

A broadcast together with any number of listeners, known by the order in which they joined. Each
use of the broadcast is one `Broadcast.Use`, so that a finite interleaving of uses is a list.
-/

namespace Chip8

/-- A broadcast and its listeners in the order in which they joined. -/
structure Audience (α : Type) where
  broadcast : Broadcast α
  listeners : Array Listener
  deriving DecidableEq, Repr

/-- A wait in the course of which nothing is published: when it begins, how long it lasts at most,
and what the clock shows each time there is nothing to read. -/
structure Broadcast.Wait where
  begun : Nat
  timeout : Nat
  looks : List Nat
  deriving DecidableEq, Repr

/-- When a wait ends at the latest, if a clock can hold that instant. -/
def Broadcast.Wait.deadline? (wait : Wait) : Option Nat := instantAfter? wait.begun wait.timeout

/-- One use of a broadcast by its publisher or by a listener. -/
inductive Broadcast.Use (α : Type) where
  | publish (value : α)
  | subscribe
  /-- A new listener that has read as far as another. -/
  | clone (listener : Nat)
  | latest (listener : Nat)
  | next (listener : Nat)
  | await (listener : Nat) (wait : Wait)
  /-- Look at the latest value without being a listener. -/
  | look
  deriving DecidableEq, Repr

/-- What a use of a broadcast is answered with. -/
inductive Broadcast.Answer (α : Type) where
  | nothing
  | value (value : α)
  /-- The number of a new listener. -/
  | joined (listener : Nat)
  /-- There is no listener with that number. -/
  | unknownListener
  /-- The listener was to wait until an instant that no clock can hold. -/
  | noDeadline
  deriving DecidableEq, Repr

namespace Audience

variable {α : Type}

/-- A broadcast nobody listens to. -/
def ofInitial (initial : α) : Audience α := ⟨.ofInitial initial, #[]⟩

/-- A listener joins. -/
def join (audience : Audience α) (listener : Listener) : Broadcast.Answer α × Audience α :=
  (.joined audience.listeners.size,
    { audience with listeners := audience.listeners.push listener })

/-- A listener reads in some way. If it was to wait and there is no deadline, it stays where it
is. -/
def readBy (audience : Audience α) (number : Nat)
    (read : Listener → Option (Option α × Listener)) : Broadcast.Answer α × Audience α :=
  match audience.listeners[number]? with
  | none => (.unknownListener, audience)
  | some listener =>
      match read listener with
      | none => (.noDeadline, audience)
      | some (value?, moved) =>
          let answer := match value? with
            | some value => .value value
            | none => .nothing
          (answer, { audience with listeners := audience.listeners.setIfInBounds number moved })

/-- One use of the broadcast. -/
def use (audience : Audience α) : Broadcast.Use α → Broadcast.Answer α × Audience α
  | .publish value =>
      (.nothing, { audience with broadcast := audience.broadcast.publish value })
  | .subscribe => audience.join audience.broadcast.subscribe
  | .clone number =>
      match audience.listeners[number]? with
      | none => (.unknownListener, audience)
      | some listener => audience.join listener
  | .latest number =>
      audience.readBy number fun listener =>
        let (value, moved) := audience.broadcast.latest listener
        some (some value, moved)
  | .next number =>
      audience.readBy number fun listener => some (audience.broadcast.next? listener)
  | .await number wait =>
      audience.readBy number fun listener =>
        Broadcast.awaitNext? listener wait.begun wait.timeout audience.broadcast
          (wait.looks.map (audience.broadcast, ·))
  | .look => (.value audience.broadcast.value, audience)

/-- The answers to a list of uses, and what the audience is afterwards. -/
def useAll (audience : Audience α) : List (Broadcast.Use α) →
    List (Broadcast.Answer α) × Audience α
  | [] => ([], audience)
  | first :: rest =>
      let (answer, next) := audience.use first
      let (answers, last) := next.useAll rest
      (answer :: answers, last)

end Audience

end Chip8
