import Switchboard.Invalidation

namespace Switchboard

/-!
# Invalidation bus

Channels by topic.  A channel comes into being with its first receiver and keeps,
for each receiver, the latest events that it has not taken.  A receiver that falls
behind learns once how many events it missed.  An event without receivers is gone.
-/

/-- What a receiver gets when it asks. -/
inductive Delivery where
  | event (invalidation : Invalidation)
  | missed (count : Nat)
  | nothing
  | closed
  deriving DecidableEq, Repr

/-- One receiver of a topic and what it has not taken, the oldest event first. -/
structure Receiver where
  topic : String
  pending : List Invalidation := []
  missed : Nat := 0
  isLive : Bool := true
  deriving DecidableEq, Repr

namespace Receiver

/-- Whether a receiver gets the events of a topic. -/
def listensTo (receiver : Receiver) (topic : String) : Bool :=
  receiver.isLive && receiver.topic == topic

/-- Keep one more event, and give up the oldest where there is no room for it. -/
def push (receiver : Receiver) (capacity : Nat) (event : Invalidation) : Receiver :=
  let pending := receiver.pending ++ [event]
  let excess := pending.length - capacity
  { receiver with pending := pending.drop excess, missed := receiver.missed + excess }

/-- Take what comes next: first the number of missed events, then the events. -/
def take (receiver : Receiver) (closed : Bool) : Delivery × Receiver :=
  if 0 < receiver.missed then (.missed receiver.missed, { receiver with missed := 0 })
  else
    match receiver.pending with
    | event :: rest => (.event event, { receiver with pending := rest })
    | [] => (if closed then .closed else .nothing, receiver)

end Receiver

/-- The channel of a topic and the number of events that reached somebody. -/
structure Channel where
  topic : String
  sent : Nat := 0
  deriving DecidableEq, Repr

/-- All channels and receivers; a receiver is known by its place in the list. -/
structure Bus where
  capacity : Nat
  channels : List Channel := []
  receivers : List Receiver := []
  totalSent : Nat := 0
  isClosed : Bool := false
  deriving DecidableEq, Repr

namespace Bus

/-- The number of events that a channel keeps unless the configuration says otherwise. -/
def defaultCapacity : Nat :=
  256

/-- A bus whose channels keep at least the given number of events: the next power of two. -/
def ofCapacity (capacity : Nat) : Bus where
  capacity := (max 1 capacity).nextPowerOfTwo

/-- The channel of a topic. -/
def channel? (bus : Bus) (topic : String) : Option Channel :=
  bus.channels.find? fun channel => channel.topic == topic

/-- The number of receivers of a topic. -/
def receiverCount (bus : Bus) (topic : String) : Nat :=
  bus.receivers.countP fun receiver => receiver.listensTo topic

/-- Add a receiver, and the channel of its topic if there is none. -/
def subscribe (bus : Bus) (topic : String) : Nat × Bus :=
  (bus.receivers.length,
    { bus with
      channels :=
        if (bus.channel? topic).isSome then bus.channels else bus.channels ++ [⟨topic, 0⟩]
      receivers := bus.receivers ++ [{ topic }] })

/-- Let a receiver go. -/
def unsubscribe (bus : Bus) (receiver : Nat) : Bus :=
  { bus with
    receivers := bus.receivers.modify receiver fun state => { state with isLive := false } }

/-- Count an event of a topic. -/
def countSent (bus : Bus) (topic : String) : Bus :=
  { bus with
    channels := bus.channels.map fun channel =>
      if channel.topic == topic then { channel with sent := channel.sent + 1 } else channel
    totalSent := bus.totalSent + 1 }

/-- Hand an event to the receivers of a topic, and tell how many there are. -/
def publish (bus : Bus) (topic : String) (event : Invalidation) : Nat × Bus :=
  let reached := bus.receiverCount topic
  if reached = 0 then (0, bus)
  else
    (reached,
      { bus.countSent topic with
        receivers := bus.receivers.map fun receiver =>
          if receiver.listensTo topic then receiver.push bus.capacity event else receiver })

/-- Take the next delivery of a receiver. -/
def receive (bus : Bus) (receiver : Nat) : Delivery × Bus :=
  match bus.receivers[receiver]? with
  | none => (.nothing, bus)
  | some state =>
      let (delivery, later) := state.take bus.isClosed
      (delivery, { bus with receivers := bus.receivers.set receiver later })

/-- Take at most `count` deliveries of a receiver, up to the first that is none. -/
def receiveAll (bus : Bus) (receiver : Nat) : Nat → List Delivery × Bus
  | 0 => ([], bus)
  | count + 1 =>
      match bus.receive receiver with
      | (.nothing, bus) => ([], bus)
      | (.closed, bus) => ([.closed], bus)
      | (delivery, bus) =>
          let (later, bus) := receiveAll bus receiver count
          (delivery :: later, bus)

/-- Take everything that waits for a receiver. -/
def drain (bus : Bus) (receiver : Nat) : List Delivery × Bus :=
  match bus.receivers[receiver]? with
  | none => ([], bus)
  | some state => bus.receiveAll receiver (state.pending.length + 2)

/-- The publishing side goes away; the receivers may still take what they have. -/
def close (bus : Bus) : Bus :=
  { bus with isClosed := true }

end Bus

end Switchboard
