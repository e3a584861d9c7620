import Codemod.Event

/-!
# Event streams

A stream hands every event to every receiver that has subscribed by then. Events are numbered and
kept in a ring of slots, where a new event takes the place of the one that came a whole round before
it. A receiver goes through the numbers at its own pace. If the event it is to get next has lost its
slot, the receiver is told how many it has missed and goes on with the oldest one that is left. An
event that nobody can receive is dropped.

## Main definitions

* `Event.Stream.next?` — what there is to receive at a position.
* `Event.Stream.publish`, `Event.Stream.receive`, `Event.Stream.drain`.
-/

namespace Codemod

inductive Event.Received where
  | event (e : Event)
  | lagged (missed : Nat)
  deriving DecidableEq

/-- How many events it tells of. -/
def Event.Received.count : Received → Nat
  | event _ => 1
  | lagged missed => missed

/-- An event with its number. -/
structure Event.Slot where
  number : Nat
  event : Event
  deriving DecidableEq

structure Event.Stream where
  /-- The ring. A slot is empty until an event comes to it. -/
  slots : List (Option Slot)
  /-- The number of the event that is published next. -/
  tail : Nat := 0
  /-- The position of each receiver, unless it has unsubscribed: the number of its next event. -/
  receivers : List (Option Nat) := []

namespace Event.Stream

/-- How many slots there are where room is asked for `n` events: the next power of two. -/
def slotCount (n : Nat) : Nat :=
  if n ≤ 1 then 1 else Nat.pow 2 ((n - 1).log2 + 1)

/-- A stream for at least `n` events. -/
def ofCapacity (n : Nat) : Stream :=
  { slots := List.replicate (slotCount n) none }

/-- The room for events where nothing else is asked for. -/
def defaultCapacity : Nat := 1024

/-- How many events are kept. -/
def capacity (s : Stream) : Nat :=
  s.slots.length

/-- The event in the slot for a number, which may be the event of an earlier or a later round. -/
def slot? (s : Stream) (number : Nat) : Option Slot :=
  (s.slots[number % s.capacity]?).join

/-- What a receiver at `position` receives next. -/
def next? (s : Stream) (position : Nat) : Option Received :=
  match s.slot? position with
  | none => none
  | some x =>
    if x.number = position then some (.event x.event)
    -- the slot is still with the round before, so the event has not been published yet
    else if x.number + s.capacity = position then none
    else some (.lagged (s.tail - s.capacity - position))

def subscriberCount (s : Stream) : Nat :=
  (s.receivers.filter Option.isSome).length

/-- A new receiver, which gets what is published from now on. -/
def subscribe (s : Stream) : Nat × Stream :=
  (s.receivers.length, { s with receivers := s.receivers ++ [some s.tail] })

def unsubscribe (s : Stream) (receiver : Nat) : Stream :=
  { s with receivers := s.receivers.set receiver none }

def publish (s : Stream) (e : Event) : Stream :=
  if s.subscriberCount = 0 then s
  else
    { s with
      slots := s.slots.set (s.tail % s.capacity) (some { number := s.tail, event := e })
      tail := s.tail + 1 }

def publishAll (s : Stream) (events : List Event) : Stream :=
  events.foldl publish s

def position? (s : Stream) (receiver : Nat) : Option Nat :=
  (s.receivers[receiver]?).join

/-- The next thing that `receiver` receives. -/
def receive (s : Stream) (receiver : Nat) : Option Received × Stream :=
  match s.position? receiver with
  | none => (none, s)
  | some position =>
    match s.next? position with
    | none => (none, s)
    | some r =>
      (some r, { s with receivers := s.receivers.set receiver (some (position + r.count)) })

/-- What `receiver` receives if it asks again and again, but at most `limit` times. -/
def receiveUpTo (receiver : Nat) : (limit : Nat) → Stream → List Received × Stream
  | 0, s => ([], s)
  | limit + 1, s =>
    match s.receive receiver with
    | (none, s) => ([], s)
    | (some r, s) =>
      let (rest, s) := receiveUpTo receiver limit s
      (r :: rest, s)

/-- Everything that `receiver` has yet to receive, unless it has unsubscribed: at most one notice,
and the events in the ring. -/
def drain (s : Stream) (receiver : Nat) : Option (List Received) × Stream :=
  match s.position? receiver with
  | none => (none, s)
  | some _ =>
    let (received, s) := receiveUpTo receiver (s.capacity + 1) s
    (some received, s)

end Event.Stream

end Codemod
