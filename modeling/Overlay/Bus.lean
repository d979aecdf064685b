import Overlay.Message.Downward
import Overlay.Table
import Overlay.Tier.Basic

/-!
# The topic bus

A cluster publishes messages for its workers on a bus. Publishing never waits: the bus keeps the
latest publications only, and a subscriber that fell behind is told how many it has missed. A
subscriber gets what is published after it came; what nobody subscribes to is dropped.
-/

namespace Overlay

/-- One message on a topic. -/
structure Publication where
  topic : String
  payload : Json

/-- A bus with its subscribers. Publications are numbered from the first one on; a subscriber is at
the number of the next one it gets. -/
structure Bus where
  /-- How many publications are kept. -/
  capacity : Nat
  /-- The latest publications, oldest first. -/
  recent : List Publication
  /-- How many publications there were. -/
  count : Nat
  subscribers : Table Nat

/-- What a subscriber gets: how many publications it has missed, and those it has not seen. -/
structure Bus.Drained where
  missed : Nat
  publications : List Publication

namespace Bus

/-- The smallest power of two that is at least a number, found in at most `fuel` steps. -/
def powerFrom : Nat → Nat → Nat → Nat
  | 0, power, _ => power
  | fuel + 1, power, n => if n ≤ power then power else powerFrom fuel (2 * power) n

/-- A bus that keeps at least a number of publications. -/
def ofCapacity (capacity : Nat) : Bus :=
  ⟨powerFrom capacity 1 capacity, [], 0, ∅⟩

/-- A new subscriber, in place of the one with its name. -/
def subscribe (b : Bus) (id : String) : Bus :=
  { b with subscribers := b.subscribers.insert id b.count }

/-- Removes a subscriber. Gives whether there was one. -/
def unsubscribe (b : Bus) (id : String) : Bool × Bus :=
  (b.subscribers.contains id, { b with subscribers := b.subscribers.erase id })

/-- Publishes a message. Gives the number of subscribers. -/
def publish (b : Bus) (p : Publication) : Nat × Bus :=
  let receivers := b.subscribers.keys.length
  if receivers = 0 then (0, b)
  else
    let all := b.recent ++ [p]
    (receivers, { b with recent := all.drop (all.length - b.capacity), count := b.count + 1 })

/-- Everything that waits for a subscriber. -/
def drain (b : Bus) (id : String) : Option Drained × Bus :=
  match b.subscribers.get? id with
  | none => (none, b)
  | some position =>
    let oldest := max position (b.count - b.capacity)
    let waiting := b.recent.drop (b.recent.length - (b.count - oldest))
    (some ⟨oldest - position, waiting⟩, { b with subscribers := b.subscribers.insert id b.count })

/-- Publishes a message for a recipient on its topic. -/
def notify (b : Bus) (recipient : String) (m : ChildMessage) : Bus :=
  (b.publish ⟨m.topic recipient, m.payload⟩).2

/-- Reaches the parties below through a bus, which never fails. -/
def notifier {σ : Type} (bus : Part σ Bus) : Notifier σ :=
  fun recipient m => .modify fun s => bus.set ((bus.get s).notify recipient m) s

end Bus

end Overlay
