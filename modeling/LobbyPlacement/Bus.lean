import LobbyPlacement.Publisher

/-!
# The local event bus

Channels inside the process. A channel keeps its latest payloads in a ring whose number of slots is
a power of two; each subscriber reads on from its own position, and one that has fallen behind the
ring is told how many payloads it missed and goes on with the oldest kept. A capacity past the
largest ring breaks the bus for good when a channel is first used.
-/

namespace LobbyPlacement

abbrev Payload := Text.Utf8.Bytes

/-- The payloads of one channel: how many were ever published, and the latest of them. -/
structure Ring where
  published : Nat
  kept : List Payload

namespace Ring

def empty : Ring := ⟨0, []⟩

def keepLast {α : Type} (slots : Nat) (items : List α) : List α :=
  items.drop (items.length - slots)

def push (slots : Nat) (payload : Payload) (r : Ring) : Ring :=
  ⟨r.published + 1, keepLast slots (r.kept ++ [payload])⟩

/-- The payload at a position, while it is kept. -/
def payload? (r : Ring) (position : Nat) : Option Payload :=
  r.kept[position - (r.published - r.kept.length)]?

end Ring

/-- A subscriber's channel and the position of the payload it reads next. -/
structure Subscriber where
  channel : String
  position : Nat

inductive BusFault
  | crashed
  | broken
deriving DecidableEq, Repr

inductive Received
  | payload (p : Payload)
  | empty
  | lagged (missed : Nat)
  | noSubscriber

structure Bus where
  capacity : Nat
  isBroken : Bool
  channels : List (String × Ring)
  /-- Every subscriber by its number, dropped ones as `none`. -/
  subscribers : List (Option Subscriber)

namespace Bus

def defaultCapacity : Nat := 1024

/-- From this capacity on the library of the channels makes no ring. -/
def capacityBound : Nat := Nat.pow 2 63 - 1

/-- What is assumed of that library: below its limit a ring can be made. The slots of a ring are
rounded up to a power of two, and where memory ends before the limit this asks too much of it. -/
def RingFits (capacity : Nat) : Prop := capacity < capacityBound

instance (capacity : Nat) : Decidable (RingFits capacity) := Nat.decLt capacity capacityBound

def ofCapacity (capacity : Nat) : Bus := ⟨capacity, false, [], []⟩

/-- The smallest power of two that holds the capacity, which `le_slots` and `slots_lt` say. -/
def slots (b : Bus) : Nat := Nat.pow 2 (2 * b.capacity - 1).log2

theorem le_slots (b : Bus) : max b.capacity 1 ≤ b.slots := by
  have positive : 0 < b.slots := Nat.two_pow_pos _
  have above : 2 * b.capacity - 1 < b.slots * 2 := Nat.lt_log2_self
  omega

theorem slots_lt (b : Bus) : b.slots < 2 * max b.capacity 1 := by
  by_cases zero : b.capacity = 0
  · have one : b.slots = 1 := by simp [slots, zero]
    omega
  · have below : b.slots ≤ 2 * b.capacity - 1 := Nat.log2_self_le (by omega)
    omega

def setRing (name : String) (ring : Ring) : List (String × Ring) → List (String × Ring)
  | [] => [(name, ring)]
  | entry :: rest =>
    if entry.1 = name then (name, ring) :: rest else entry :: setRing name ring rest

/-- The ring of a channel, new at its first use. -/
def ring (b : Bus) (name : String) : Bus × Except BusFault Ring :=
  if b.isBroken then (b, .error .broken)
  else match b.channels.lookup name with
    | some ring => (b, .ok ring)
    | none =>
      if RingFits b.capacity then
        ({ b with channels := setRing name .empty b.channels }, .ok .empty)
      else ({ b with isBroken := true }, .error .crashed)

/-- A new subscriber of a channel, by its number; it sees only what is published later. -/
def subscribe (b : Bus) (name : String) : Bus × Except BusFault Nat :=
  match b.ring name with
  | (b, .error fault) => (b, .error fault)
  | (b, .ok ring) =>
    ({ b with subscribers := b.subscribers ++ [some ⟨name, ring.published⟩] },
      .ok b.subscribers.length)

/-- Publishing succeeds whether or not anybody listens. -/
def publish (b : Bus) (name : String) (payload : Payload) : Bus × Except BusFault Unit :=
  match b.ring name with
  | (b, .error fault) => (b, .error fault)
  | (b, .ok ring) =>
    ({ b with channels := setRing name (ring.push b.slots payload) b.channels }, .ok ())

def moveTo (b : Bus) (number position : Nat) : Bus :=
  { b with
    subscribers := b.subscribers.modify number fun s => s.map fun s =>
      { s with position := position } }

def receive (b : Bus) (number : Nat) : Bus × Received :=
  match b.subscribers[number]? with
  | none | some none => (b, .noSubscriber)
  | some (some s) =>
    let ring := (b.channels.lookup s.channel).getD .empty
    let unread := ring.published - s.position
    if unread = 0 then (b, .empty)
    else if b.slots < unread then
      (b.moveTo number (ring.published - b.slots), .lagged (unread - b.slots))
    else match ring.payload? s.position with
      | some payload => (b.moveTo number (s.position + 1), .payload payload)
      | none => (b, .empty)

def drop (b : Bus) (number : Nat) : Bus :=
  { b with subscribers := b.subscribers.modify number fun _ => none }

/-- The number of live subscribers of a channel; a broken bus has none. -/
def subscriberCount (b : Bus) (name : String) : Nat :=
  if b.isBroken then 0
  else (b.subscribers.filter fun s => s.any fun s => s.channel = name).length

end Bus

def BusFault.fault : BusFault → Fault
  | _ => .internal "Failed to acquire event bus lock"

instance : Publisher Bus where
  publish b _ _ channel payload :=
    match b.publish channel payload with
    | (b, .ok ()) => (b, .settled 0 (.ok ()))
    | (b, .error .crashed) => (b, .crashed 0)
    | (b, .error .broken) => (b, .settled 0 (.error BusFault.broken.fault))
  isHealthy _ := true

end LobbyPlacement
