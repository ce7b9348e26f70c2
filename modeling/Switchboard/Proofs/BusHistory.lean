import Mathlib.Algebra.GroupWithZero.Nat
import Mathlib.Data.List.DropRight
import Mathlib.Data.List.Nodup
import Switchboard.Proofs.Bus

namespace Switchboard

/-!
# Histories of a bus

What waits for a receiver depends on what happened on the bus before.  A receiver hears what
is published on its topic from the call that added it until it leaves, in that order, and
nothing else.  Of what it heard and has not passed, its channel keeps the latest events, and
it learns how many of the others it missed.  The counters follow the events that reached
somebody, over any number of receivers that come and go.
-/

/-- What can happen on a bus. -/
inductive BusEvent where
  | joined (topic : String) (receiver : Nat)
  | left (receiver : Nat)
  | published (topic : String) (event : Invalidation) (reached : Nat)
  | taken (receiver : Nat) (delivery : Delivery)
  deriving DecidableEq, Repr

namespace BusEvent

/-- A receiver was added to a topic. -/
def joins (topic : String) : BusEvent → Bool
  | .joined other _ => other == topic
  | _ => false

/-- An event was published on a topic and reached somebody. -/
def reaches (topic : String) : BusEvent → Bool
  | .published other _ reached => other == topic && decide (0 < reached)
  | _ => false

/-- An event was published and reached somebody. -/
def reachesSomebody : BusEvent → Bool
  | .published _ _ reached => decide (0 < reached)
  | _ => false

end BusEvent

namespace Delivery

/-- How many of the events that a receiver heard are behind it after a delivery. -/
def passes : Delivery → Nat
  | .event _ => 1
  | .missed count => count
  | .nothing => 0
  | .closed => 0

end Delivery

namespace Receiver

variable {receiver : Receiver} {room : Nat} {unread : List Invalidation}

/-- A receiver has the latest of the events that it has not passed, and counts the others. -/
structure Holds (room : Nat) (unread : List Invalidation) (receiver : Receiver) : Prop where
  pending : receiver.pending = unread.rtake room
  missed : receiver.missed = unread.length - room

/-- What a receiver is told next. -/
def nextOf (room : Nat) (unread : List Invalidation) : Delivery :=
  if room < unread.length then .missed (unread.length - room)
  else
    match unread with
    | event :: _ => .event event
    | [] => .nothing

theorem holds_of_new (room : Nat) (topic : String) : Holds room [] { topic } where
  pending := (List.rtake_nil room).symm
  missed := (Nat.zero_sub room).symm

namespace Holds

theorem length_pending (holds : Holds room unread receiver) :
    receiver.pending.length = min unread.length room := by
  rw [holds.pending, List.rtake, List.length_drop]
  omega

/-- One more event is behind all others, and the oldest goes where there is no room. -/
theorem push (holds : Holds room unread receiver) (event : Invalidation) :
    Holds room (unread ++ [event]) (receiver.push room event) := by
  have waiting := holds.length_pending
  constructor
  · have behind : unread.length - room ≤ unread.length := Nat.sub_le _ _
    simp only [Receiver.push, List.length_append, List.length_singleton, waiting]
    rw [holds.pending, List.rtake, ← List.drop_append_of_le_length behind, List.drop_drop,
      List.rtake, List.length_append, List.length_singleton]
    congr 1
    omega
  · simp only [Receiver.push, List.length_append, List.length_singleton, waiting, holds.missed]
    omega

/-- What an open channel gives a receiver, and what the receiver has then. -/
theorem take (holds : Holds room unread receiver) :
    (receiver.take false).1 = nextOf room unread ∧
      (nextOf room unread).passes ≤ unread.length ∧
        Holds room (unread.drop (nextOf room unread).passes) (receiver.take false).2 := by
  by_cases behind : room < unread.length
  · have missedSome : 0 < receiver.missed := holds.missed ▸ Nat.sub_pos_of_lt behind
    have next : nextOf room unread = .missed (unread.length - room) := if_pos behind
    rw [next, Receiver.take, if_pos missedSome, holds.missed]
    refine ⟨rfl, Nat.sub_le _ _, ?_, ?_⟩
    · rw [holds.pending, Delivery.passes, List.rtake, List.rtake, List.length_drop,
        Nat.sub_sub_self (Nat.le_of_lt behind), Nat.sub_self, List.drop_zero]
    · rw [Delivery.passes, List.length_drop, Nat.sub_sub_self (Nat.le_of_lt behind), Nat.sub_self]
  · have fits : unread.length - room = 0 := Nat.sub_eq_zero_of_le (Nat.le_of_not_lt behind)
    have nothingMissed : ¬0 < receiver.missed := by
      rw [holds.missed, fits]
      exact Nat.lt_irrefl 0
    have waiting : receiver.pending = unread := by
      rw [holds.pending, List.rtake, fits, List.drop_zero]
    unfold nextOf
    rw [if_neg behind, Receiver.take, if_neg nothingMissed, waiting]
    cases unread with
    | nil => exact ⟨rfl, Nat.le_refl 0, holds⟩
    | cons event rest =>
        have restFits : rest.length - room = 0 := by
          rw [List.length_cons] at fits
          omega
        refine ⟨rfl, by simp [Delivery.passes], ?_, ?_⟩
        · rw [Delivery.passes, List.drop_succ_cons, List.drop_zero, List.rtake, restFits,
            List.drop_zero]
        · rw [Delivery.passes, List.drop_succ_cons, List.drop_zero, restFits]
          exact holds.missed.trans fits

end Holds

end Receiver

namespace Bus

/-- What happened on a new bus, the last first, and the bus after it. -/
inductive Ran (capacity : Nat) : List BusEvent → Bus → Prop where
  | start : Ran capacity [] (.ofCapacity capacity)
  | subscribe {events : List BusEvent} {bus : Bus} (topic : String) :
      Ran capacity events bus →
        Ran capacity (.joined topic (bus.subscribe topic).1 :: events) (bus.subscribe topic).2
  | unsubscribe {events : List BusEvent} {bus : Bus} (receiver : Nat) :
      Ran capacity events bus →
        Ran capacity (.left receiver :: events) (bus.unsubscribe receiver)
  | publish {events : List BusEvent} {bus : Bus} (topic : String) (event : Invalidation) :
      Ran capacity events bus →
        Ran capacity (.published topic event (bus.publish topic event).1 :: events)
          (bus.publish topic event).2
  | receive {events : List BusEvent} {bus : Bus} (receiver : Nat) :
      Ran capacity events bus →
        Ran capacity (.taken receiver (bus.receive receiver).1 :: events)
          (bus.receive receiver).2

/-- The receivers that were added to a topic and have not left. -/
def live (topic : String) : List BusEvent → List Nat
  | [] => []
  | .joined other receiver :: earlier =>
      if other = topic then receiver :: live topic earlier else live topic earlier
  | .left receiver :: earlier => (live topic earlier).filter (· != receiver)
  | .published .. :: earlier => live topic earlier
  | .taken .. :: earlier => live topic earlier

/-- What was published on a topic, in that order. -/
def publishedOn (topic : String) : List BusEvent → List Invalidation
  | [] => []
  | .published other event _ :: earlier =>
      publishedOn topic earlier ++ if other = topic then [event] else []
  | .joined .. :: earlier => publishedOn topic earlier
  | .left _ :: earlier => publishedOn topic earlier
  | .taken .. :: earlier => publishedOn topic earlier

/-- What was published on the topic of a receiver while it was there, in that order. -/
def heard (receiver : Nat) : List BusEvent → List Invalidation
  | [] => []
  | .published topic event _ :: earlier =>
      heard receiver earlier ++ if receiver ∈ live topic earlier then [event] else []
  | .joined .. :: earlier => heard receiver earlier
  | .left _ :: earlier => heard receiver earlier
  | .taken .. :: earlier => heard receiver earlier

/-- How many of the events that it heard a receiver took or was told to have missed. -/
def passed (receiver : Nat) : List BusEvent → Nat
  | [] => 0
  | .taken other delivery :: earlier =>
      passed receiver earlier + if other = receiver then delivery.passes else 0
  | .joined .. :: earlier => passed receiver earlier
  | .left _ :: earlier => passed receiver earlier
  | .published .. :: earlier => passed receiver earlier

/-- What a receiver heard and has not passed. -/
def unread (receiver : Nat) (events : List BusEvent) : List Invalidation :=
  (heard receiver events).drop (passed receiver events)

variable {bus : Bus} {capacity index room : Nat} {topic : String} {event : Invalidation}
  {events earlier later : List BusEvent} {receiver : Receiver}

/-! ## Channels -/

private theorem sum_sent_countSent (channels : List Channel) (topic : String) :
    ((channels.map fun channel =>
        if channel.topic == topic then { channel with sent := channel.sent + 1 }
        else channel).map Channel.sent).sum =
      (channels.map Channel.sent).sum + (channels.map Channel.topic).count topic := by
  induction channels with
  | nil => rfl
  | cons channel rest inductionHypothesis =>
      simp only [List.map_cons, List.sum_cons, inductionHypothesis, List.count_cons]
      split
      · simp only [Nat.add_assoc, Nat.add_comm, Nat.add_left_comm]
      · simp only [Nat.add_assoc, Nat.add_zero]

/-- Counting an event changes no topic. -/
theorem topics_countSent (bus : Bus) (topic : String) :
    (bus.countSent topic).channels.map Channel.topic = bus.channels.map Channel.topic := by
  simp only [countSent, List.map_map]
  refine List.map_congr_left fun channel _ => ?_
  simp only [Function.comp_apply]
  split <;> rfl

/-- An event is counted in the channel of its topic and in no other. -/
theorem channel_countSent (bus : Bus) (topic other : String) :
    (bus.countSent topic).channel? other =
      (bus.channel? other).map fun channel =>
        if other = topic then { channel with sent := channel.sent + 1 } else channel := by
  have sameTopic (channel : Channel) :
      (if channel.topic == topic then { channel with sent := channel.sent + 1 }
        else channel).topic = channel.topic := by
    split <;> rfl
  simp only [channel?, countSent, List.find?_map, Function.comp_def, sameTopic]
  cases found : bus.channels.find? fun channel => channel.topic == other with
  | none => rfl
  | some channel =>
      have isTopic : channel.topic = other := beq_iff_eq.mp (List.find?_some found :)
      simp [isTopic]

theorem channel_isSome_iff :
    (bus.channel? topic).isSome ↔ topic ∈ bus.channels.map Channel.topic := by
  simp [channel?, List.find?_isSome]

/-- A receiver of a known topic needs no channel. -/
theorem channels_subscribe_of_known (known : topic ∈ bus.channels.map Channel.topic) :
    (bus.subscribe topic).2.channels = bus.channels :=
  if_pos (channel_isSome_iff.mpr known)

/-- The first receiver of a topic adds its channel. -/
theorem channels_subscribe_of_new (new : topic ∉ bus.channels.map Channel.topic) :
    (bus.subscribe topic).2.channels = bus.channels ++ [⟨topic, 0⟩] :=
  if_neg fun known => new (channel_isSome_iff.mp known)

/-- A topic keeps the channel that came with its first receiver. -/
theorem channel_subscribe (bus : Bus) (topic other : String) :
    (bus.subscribe topic).2.channel? other =
      if topic = other then some ((bus.channel? other).getD ⟨other, 0⟩)
      else bus.channel? other := by
  by_cases known : topic ∈ bus.channels.map Channel.topic
  · rw [channel?, channels_subscribe_of_known known]
    split
    · next same =>
        subst same
        obtain ⟨channel, found⟩ := Option.isSome_iff_exists.mp (channel_isSome_iff.mpr known)
        rw [found, Option.getD_some]
        exact found
    · rfl
  · rw [channel?, channels_subscribe_of_new known, List.find?_append]
    split
    · next same =>
        subst same
        have nothing : bus.channel? topic = none :=
          Option.not_isSome_iff_eq_none.mp fun found => known (channel_isSome_iff.mp found)
        rw [nothing, Option.getD_none]
        rw [channel?] at nothing
        simp [nothing]
    · next different => simp [different, channel?]

theorem topics_subscribe_nodup (distinct : (bus.channels.map Channel.topic).Nodup)
    (topic : String) : ((bus.subscribe topic).2.channels.map Channel.topic).Nodup := by
  by_cases known : topic ∈ bus.channels.map Channel.topic
  · rwa [channels_subscribe_of_known known]
  · rw [channels_subscribe_of_new known, List.map_append, List.map_singleton,
      ← List.concat_eq_append]
    exact distinct.concat known

/-- A new channel has counted nothing. -/
theorem sum_sent_subscribe (bus : Bus) (topic : String) :
    ((bus.subscribe topic).2.channels.map Channel.sent).sum =
      (bus.channels.map Channel.sent).sum := by
  by_cases known : topic ∈ bus.channels.map Channel.topic
  · rw [channels_subscribe_of_known known]
  · rw [channels_subscribe_of_new known, List.map_append, List.sum_append]
    rfl

/-! ## Receivers -/

/-- The receivers of a topic are as many as the places at which they are. -/
theorem receiverCount_eq_length {places : List Nat} (distinct : places.Nodup)
    (isPlace : ∀ index, index ∈ places ↔
      ∃ receiver, bus.receivers[index]? = some receiver ∧ receiver.listensTo topic = true) :
    bus.receiverCount topic = places.length := by
  have samePlaces : List.Perm places
      (bus.receivers.findIdxs fun receiver => receiver.listensTo topic) := by
    refine (List.perm_ext_iff_of_nodup distinct List.nodup_findIdxs).mpr fun index => ?_
    rw [isPlace, List.mem_findIdxs_iff_exists_getElem_pos]
    simp only [List.getElem?_eq_some_iff]
    exact ⟨fun ⟨_, ⟨inRange, same⟩, hears⟩ => ⟨inRange, same ▸ hears⟩,
      fun ⟨inRange, hears⟩ => ⟨_, ⟨inRange, rfl⟩, hears⟩⟩
  rw [samePlaces.length_eq, List.length_findIdxs]
  rfl

/-- What a receiver has after somebody published. -/
theorem receiver_publish (bus : Bus) (topic : String) (event : Invalidation) (index : Nat) :
    (bus.publish topic event).2.receivers[index]? =
      bus.receivers[index]?.map fun receiver =>
        if receiver.listensTo topic then receiver.push bus.capacity event else receiver := by
  rw [receivers_publish, List.getElem?_map]

@[simp] theorem capacity_publish (bus : Bus) (topic : String) (event : Invalidation) :
    (bus.publish topic event).2.capacity = bus.capacity := by
  simp only [publish]
  split <;> rfl

@[simp] theorem isClosed_publish (bus : Bus) (topic : String) (event : Invalidation) :
    (bus.publish topic event).2.isClosed = bus.isClosed := by
  simp only [publish]
  split <;> rfl

/-- Publishing counts an event if it reaches somebody, and leaves the channels else. -/
theorem publish_cases (bus : Bus) (topic : String) (event : Invalidation) :
    (bus.publish topic event).1 = bus.receiverCount topic ∧
      (bus.receiverCount topic = 0 ∧ (bus.publish topic event).2 = bus ∨
        0 < bus.receiverCount topic ∧
          (bus.publish topic event).2.channels = (bus.countSent topic).channels ∧
            (bus.publish topic event).2.totalSent = bus.totalSent + 1) := by
  by_cases nobody : bus.receiverCount topic = 0
  · simp [publish, nobody]
  · refine ⟨by simp [publish, nobody], .inr ⟨Nat.pos_of_ne_zero nobody, ?_⟩⟩
    simp [publish, nobody, countSent]

/-- What is true of the receivers of a bus after a history. -/
structure Serves (events : List BusEvent) (bus : Bus) : Prop where
  distinct : ∀ topic, (live topic events).Nodup
  isLive : ∀ topic index, index ∈ live topic events ↔
    ∃ receiver, bus.receivers[index]? = some receiver ∧ receiver.listensTo topic = true
  holds : ∀ (index : Nat) (receiver : Receiver), bus.receivers[index]? = some receiver →
    receiver.Holds bus.capacity (unread index events)
  absent : ∀ index, bus.receivers[index]? = none → heard index events = []
  passed_le : ∀ index, passed index events ≤ (heard index events).length

/-- What is true of the counters of a bus after a history. -/
structure Counts (events : List BusEvent) (bus : Bus) : Prop where
  distinct : (bus.channels.map Channel.topic).Nodup
  channel : ∀ topic, bus.channel? topic =
    if events.any (BusEvent.joins topic) then some ⟨topic, events.countP (BusEvent.reaches topic)⟩
    else none
  unopened : ∀ topic, events.any (BusEvent.joins topic) = false →
    events.countP (BusEvent.reaches topic) = 0
  total : bus.totalSent = events.countP BusEvent.reachesSomebody
  sum : bus.totalSent = (bus.channels.map Channel.sent).sum

theorem receivers_subscribe (bus : Bus) (topic : String) (index : Nat) :
    (bus.subscribe topic).2.receivers[index]? =
      if index = bus.receivers.length then some { topic } else bus.receivers[index]? := by
  simp only [subscribe]
  split
  · next same => rw [same, List.getElem?_concat_length]
  · next different =>
      rcases Nat.lt_or_gt_of_ne different with inRange | outside
      · exact List.getElem?_append_left inRange
      · rw [List.getElem?_eq_none (by simpa using Nat.succ_le_of_lt outside),
          List.getElem?_eq_none (Nat.le_of_lt outside)]

theorem receivers_unsubscribe (bus : Bus) (left index : Nat) :
    (bus.unsubscribe left).receivers[index]? =
      bus.receivers[index]?.map fun receiver =>
        if left = index then { receiver with isLive := false } else receiver := by
  simp only [unsubscribe, List.getElem?_modify]
  split <;> simp

/-- Who takes something stays where it was. -/
theorem receivers_receive (bus : Bus) (taker index : Nat) :
    (bus.receive taker).2.receivers[index]? =
      bus.receivers[index]?.map fun receiver =>
        if taker = index then (receiver.take bus.isClosed).2 else receiver := by
  unfold receive
  cases found : bus.receivers[taker]? with
  | none =>
      by_cases same : taker = index
      · subst same
        simp [found]
      · simp [same]
  | some state =>
      simp only [List.getElem?_set]
      by_cases same : taker = index
      · subst same
        obtain ⟨inRange, isState⟩ := List.getElem?_eq_some_iff.mp found
        simp [inRange, isState]
      · simp [same]

/-- Taking a delivery changes nothing but a receiver. -/
theorem receive_frame (bus : Bus) (taker : Nat) :
    (bus.receive taker).2.capacity = bus.capacity ∧
      (bus.receive taker).2.isClosed = bus.isClosed ∧
        (bus.receive taker).2.channels = bus.channels ∧
          (bus.receive taker).2.totalSent = bus.totalSent := by
  unfold receive
  split <;> exact ⟨rfl, rfl, rfl, rfl⟩

theorem listensTo_take (receiver : Receiver) (closed : Bool) (topic : String) :
    (receiver.take closed).2.listensTo topic = receiver.listensTo topic := by
  unfold Receiver.take
  split
  · rfl
  · split <;> rfl

theorem listensTo_push (receiver : Receiver) (room : Nat) (event : Invalidation)
    (topic : String) : (receiver.push room event).listensTo topic = receiver.listensTo topic :=
  rfl

namespace Serves

theorem ofCapacity (capacity : Nat) : Serves [] (.ofCapacity capacity) where
  distinct _ := List.nodup_nil
  isLive _ index := by simp [live, Bus.ofCapacity]
  holds index receiver found := by simp [Bus.ofCapacity] at found
  absent _ _ := rfl
  passed_le _ := Nat.le_refl 0

/-- The unread events of a receiver that nobody has heard of are none. -/
theorem unread_of_absent (serves : Serves events bus) (absent : bus.receivers[index]? = none) :
    unread index events = [] := by
  rw [unread, serves.absent index absent, List.drop_nil]

theorem subscribe (serves : Serves events bus) (topic : String) :
    Serves (.joined topic (bus.subscribe topic).1 :: events) (bus.subscribe topic).2 := by
  have new : bus.receivers[bus.receivers.length]? = none := List.getElem?_eq_none (Nat.le_refl _)
  have notLive (other : String) : bus.receivers.length ∉ live other events := by
    rw [serves.isLive]
    rintro ⟨receiver, found, -⟩
    rw [new] at found
    cases found
  constructor
  · intro other
    rw [live]
    split
    · exact List.nodup_cons.mpr ⟨notLive other, serves.distinct other⟩
    · exact serves.distinct other
  · intro other index
    rw [live, receivers_subscribe]
    by_cases isNew : index = bus.receivers.length
    · subst isNew
      by_cases same : topic = other
      · simp [same, Bus.subscribe, Receiver.listensTo]
      · simp [same, notLive other, Receiver.listensTo]
    · have notFirst : index ≠ (bus.subscribe topic).1 := isNew
      rw [if_neg isNew, ← serves.isLive]
      split
      · rw [List.mem_cons, or_iff_right notFirst]
      · rfl
  · intro index receiver found
    rw [receivers_subscribe] at found
    by_cases isNew : index = bus.receivers.length
    · rw [if_pos isNew, Option.some.injEq] at found
      have nothing : unread index events = [] := serves.unread_of_absent (isNew ▸ new)
      have same : unread index (.joined topic (bus.subscribe topic).1 :: events) = [] := nothing
      rw [same, ← found]
      exact Receiver.holds_of_new _ topic
    · rw [if_neg isNew] at found
      exact serves.holds index receiver found
  · intro index absent
    rw [receivers_subscribe] at absent
    split at absent
    · cases absent
    · exact serves.absent index absent
  · exact serves.passed_le

theorem unsubscribe (serves : Serves events bus) (leaver : Nat) :
    Serves (.left leaver :: events) (bus.unsubscribe leaver) := by
  constructor
  · intro topic
    exact (serves.distinct topic).filter _
  · intro topic index
    rw [live, List.mem_filter, serves.isLive, receivers_unsubscribe]
    by_cases leaves : leaver = index
    · simp [leaves, Receiver.listensTo]
    · simp [leaves, Ne.symm leaves]
  · intro index receiver found
    rw [receivers_unsubscribe, Option.map_eq_some_iff] at found
    obtain ⟨before, wasThere, rfl⟩ := found
    have held := serves.holds index before wasThere
    split
    · exact ⟨held.pending, held.missed⟩
    · exact held
  · intro index absent
    rw [receivers_unsubscribe, Option.map_eq_none_iff] at absent
    exact serves.absent index absent
  · exact serves.passed_le

/-- A published event is unread by all who are there, and by them only. -/
theorem unread_published (serves : Serves events bus) (topic : String) (event : Invalidation)
    (reached index : Nat) :
    unread index (.published topic event reached :: events) =
      unread index events ++ if index ∈ live topic events then [event] else [] := by
  rw [unread, heard, passed, List.drop_append_of_le_length (serves.passed_le index), unread]

theorem publish (serves : Serves events bus) (topic : String) (event : Invalidation) :
    Serves (.published topic event (bus.publish topic event).1 :: events)
      (bus.publish topic event).2 := by
  constructor
  · exact serves.distinct
  · intro other index
    rw [live, serves.isLive, receiver_publish]
    cases bus.receivers[index]? with
    | none => simp
    | some receiver =>
        by_cases hears : receiver.listensTo topic = true
        · simp [hears, listensTo_push]
        · simp [hears]
  · intro index receiver found
    rw [receiver_publish, Option.map_eq_some_iff] at found
    obtain ⟨before, wasThere, rfl⟩ := found
    have held := serves.holds index before wasThere
    have hears : index ∈ live topic events ↔ before.listensTo topic = true := by
      simp [serves.isLive, wasThere]
    rw [serves.unread_published, capacity_publish]
    by_cases listens : before.listensTo topic = true
    · rw [if_pos listens, if_pos (hears.mpr listens)]
      exact held.push event
    · rw [if_neg listens, if_neg (mt hears.mp listens), List.append_nil]
      exact held
  · intro index absent
    rw [receiver_publish, Option.map_eq_none_iff] at absent
    have notLive : index ∉ live topic events := by simp [serves.isLive, absent]
    rw [heard, serves.absent index absent, if_neg notLive, List.append_nil]
  · intro index
    rw [heard, passed, List.length_append]
    exact Nat.le_add_right_of_le (serves.passed_le index)

/-- What an open bus gives a receiver. -/
theorem receive_eq_next (serves : Serves events bus) (isOpen : bus.isClosed = false)
    (index : Nat) :
    (bus.receive index).1 = Receiver.nextOf bus.capacity (unread index events) := by
  unfold Bus.receive
  cases found : bus.receivers[index]? with
  | none =>
      rw [serves.unread_of_absent found]
      rfl
  | some receiver =>
      rw [isOpen]
      exact (serves.holds index receiver found).take.1

theorem receive (serves : Serves events bus) (isOpen : bus.isClosed = false) (taker : Nat) :
    Serves (.taken taker (bus.receive taker).1 :: events) (bus.receive taker).2 := by
  have given := serves.receive_eq_next isOpen taker
  have sameCapacity := (receive_frame bus taker).1
  constructor
  · exact serves.distinct
  · intro topic index
    rw [live, serves.isLive, receivers_receive]
    cases bus.receivers[index]? with
    | none => simp
    | some receiver =>
        by_cases takes : taker = index
        · simp [takes, listensTo_take]
        · simp [takes]
  · intro index receiver found
    rw [receivers_receive, isOpen, Option.map_eq_some_iff] at found
    obtain ⟨before, wasThere, rfl⟩ := found
    have held := serves.holds index before wasThere
    rw [sameCapacity, unread, heard, passed]
    by_cases takes : taker = index
    · subst takes
      rw [if_pos rfl, if_pos rfl, given, ← List.drop_drop]
      exact held.take.2.2
    · rw [if_neg takes, if_neg takes]
      exact held
  · intro index absent
    rw [receivers_receive, Option.map_eq_none_iff] at absent
    exact serves.absent index absent
  · intro index
    have before := serves.passed_le index
    rw [heard, passed]
    by_cases takes : taker = index
    · subst takes
      rw [if_pos rfl, given]
      have passesNoMore : (Receiver.nextOf bus.capacity (unread taker events)).passes ≤
          (unread taker events).length := by
        cases found : bus.receivers[taker]? with
        | none =>
            rw [serves.unread_of_absent found]
            exact Nat.le_refl 0
        | some receiver => exact (serves.holds taker receiver found).take.2.1
      have left : (unread taker events).length =
          (heard taker events).length - passed taker events := List.length_drop
      omega
    · rwa [if_neg takes]

end Serves

namespace Counts

theorem ofCapacity (capacity : Nat) : Counts [] (.ofCapacity capacity) where
  distinct := List.nodup_nil
  channel _ := rfl
  unopened _ _ := rfl
  total := rfl
  sum := rfl

/-- Where the channels stay and nothing reaches anybody, the counters stay. -/
theorem of_same {after : Bus} {happened : BusEvent} (counts : Counts events bus)
    (channels : after.channels = bus.channels) (totalSent : after.totalSent = bus.totalSent)
    (joinsNone : ∀ topic, happened.joins topic = false)
    (reachesNone : ∀ topic, happened.reaches topic = false)
    (reachesNobody : happened.reachesSomebody = false) :
    Counts (happened :: events) after where
  distinct := channels ▸ counts.distinct
  channel topic := by
    have same : after.channel? topic = bus.channel? topic := by rw [channel?, channels, channel?]
    simp [same, counts.channel topic, joinsNone, reachesNone]
  unopened topic closed := by
    rw [List.any_cons, joinsNone, Bool.false_or] at closed
    rw [List.countP_cons_of_neg (by simp [reachesNone])]
    exact counts.unopened topic closed
  total := by simp [totalSent, counts.total, reachesNobody]
  sum := by rw [totalSent, counts.sum, channels]

/-- A topic that nobody joined before has a channel from now on, and has counted nothing. -/
theorem subscribe (counts : Counts events bus) (topic : String) :
    Counts (.joined topic (bus.subscribe topic).1 :: events) (bus.subscribe topic).2 where
  distinct := topics_subscribe_nodup counts.distinct topic
  channel other := by
    rw [channel_subscribe, counts.channel other, List.any_cons,
      List.countP_cons_of_neg (by simp [BusEvent.reaches])]
    by_cases same : topic = other
    · subst same
      cases opened : events.any (BusEvent.joins topic) with
      | true => simp [BusEvent.joins]
      | false => simp [BusEvent.joins, counts.unopened topic opened]
    · simp [BusEvent.joins, same]
  unopened other closed := by
    rw [List.any_cons, Bool.or_eq_false_iff] at closed
    rw [List.countP_cons_of_neg (by simp [BusEvent.reaches])]
    exact counts.unopened other closed.2
  total := by
    rw [List.countP_cons_of_neg (by simp [BusEvent.reachesSomebody])]
    exact counts.total
  sum := (sum_sent_subscribe bus topic).symm ▸ counts.sum

/-- An event is counted once for its topic and once in all if somebody gets it, and never else. -/
theorem publish (counts : Counts events bus) (topic : String) (event : Invalidation)
    (opened : 0 < bus.receiverCount topic → events.any (BusEvent.joins topic) = true) :
    Counts (.published topic event (bus.publish topic event).1 :: events)
      (bus.publish topic event).2 := by
  obtain ⟨reached, ⟨nobody, unchanged⟩ | ⟨somebody, channels, total⟩⟩ :=
    publish_cases bus topic event
  · rw [reached, unchanged, nobody]
    exact counts.of_same rfl rfl (fun _ => rfl) (fun _ => by simp [BusEvent.reaches])
      (by simp [BusEvent.reachesSomebody])
  · have isOpened := opened somebody
    rw [reached]
    constructor
    · rw [channels, topics_countSent]
      exact counts.distinct
    · intro other
      have counted : (bus.publish topic event).2.channel? other =
          (bus.countSent topic).channel? other := by rw [channel?, channels, channel?]
      rw [counted, channel_countSent, counts.channel other, List.any_cons, List.countP_cons]
      by_cases same : other = topic
      · subst same
        simp [BusEvent.reaches, isOpened, somebody]
      · cases events.any (BusEvent.joins other) with
        | true => simp [BusEvent.reaches, same, Ne.symm same]
        | false => simp [BusEvent.joins]
    · intro other closed
      rw [List.any_cons, Bool.or_eq_false_iff] at closed
      have different : topic ≠ other := by
        rintro rfl
        rw [isOpened] at closed
        cases closed.2
      rw [List.countP_cons_of_neg (by simp [BusEvent.reaches, different])]
      exact counts.unopened other closed.2
    · rw [total, List.countP_cons_of_pos (by simp [BusEvent.reachesSomebody, somebody]),
        counts.total]
    · have known : topic ∈ bus.channels.map Channel.topic := by
        rw [← channel_isSome_iff, counts.channel topic, if_pos isOpened]
        rfl
      rw [total, channels, countSent, sum_sent_countSent,
        List.count_eq_one_of_mem counts.distinct known, counts.sum]

end Counts

/-- What is true of a bus after a history. -/
structure Reflects (capacity : Nat) (events : List BusEvent) (bus : Bus) : Prop where
  capacity_eq : bus.capacity = (max 1 capacity).nextPowerOfTwo
  isOpen : bus.isClosed = false
  opened : ∀ topic, live topic events ≠ [] → events.any (BusEvent.joins topic) = true
  serves : Serves events bus
  counts : Counts events bus

namespace Reflects

theorem receiverCount_eq (reflects : Reflects capacity events bus) (topic : String) :
    bus.receiverCount topic = (live topic events).length :=
  receiverCount_eq_length (reflects.serves.distinct topic) (reflects.serves.isLive topic)

theorem subscribe (reflects : Reflects capacity events bus) (topic : String) :
    Reflects capacity (.joined topic (bus.subscribe topic).1 :: events)
      (bus.subscribe topic).2 where
  capacity_eq := reflects.capacity_eq
  isOpen := reflects.isOpen
  opened other someLive := by
    rw [live] at someLive
    by_cases same : topic = other
    · simp [BusEvent.joins, same]
    · rw [if_neg same] at someLive
      simp [reflects.opened other someLive]
  serves := reflects.serves.subscribe topic
  counts := reflects.counts.subscribe topic

theorem unsubscribe (reflects : Reflects capacity events bus) (leaver : Nat) :
    Reflects capacity (.left leaver :: events) (bus.unsubscribe leaver) where
  capacity_eq := reflects.capacity_eq
  isOpen := reflects.isOpen
  opened topic someLive := by
    refine reflects.opened topic fun nobody => someLive ?_
    rw [live, nobody, List.filter_nil]
  serves := reflects.serves.unsubscribe leaver
  counts := reflects.counts.of_same rfl rfl (fun _ => rfl) (fun _ => rfl) rfl

theorem publish (reflects : Reflects capacity events bus) (topic : String)
    (event : Invalidation) :
    Reflects capacity (.published topic event (bus.publish topic event).1 :: events)
      (bus.publish topic event).2 where
  capacity_eq := (capacity_publish bus topic event).trans reflects.capacity_eq
  isOpen := (isClosed_publish bus topic event).trans reflects.isOpen
  opened := reflects.opened
  serves := reflects.serves.publish topic event
  counts := by
    refine reflects.counts.publish topic event fun somebody => reflects.opened topic ?_
    rw [reflects.receiverCount_eq topic] at somebody
    exact List.ne_nil_of_length_pos somebody

theorem receive (reflects : Reflects capacity events bus) (taker : Nat) :
    Reflects capacity (.taken taker (bus.receive taker).1 :: events)
      (bus.receive taker).2 := by
  obtain ⟨sameCapacity, sameClosed, sameChannels, sameTotal⟩ := receive_frame bus taker
  exact {
    capacity_eq := sameCapacity.trans reflects.capacity_eq
    isOpen := sameClosed.trans reflects.isOpen
    opened := reflects.opened
    serves := reflects.serves.receive reflects.isOpen taker
    counts := reflects.counts.of_same sameChannels sameTotal (fun _ => rfl) (fun _ => rfl) rfl }

end Reflects

/-- What is true of a bus after any history. -/
theorem Ran.reflects (ran : Ran capacity events bus) : Reflects capacity events bus := by
  induction ran with
  | start =>
      exact ⟨rfl, rfl, fun _ someLive => absurd rfl someLive, .ofCapacity capacity,
        .ofCapacity capacity⟩
  | subscribe topic _ inductionHypothesis => exact inductionHypothesis.subscribe topic
  | unsubscribe receiver _ inductionHypothesis => exact inductionHypothesis.unsubscribe receiver
  | publish topic event _ inductionHypothesis => exact inductionHypothesis.publish topic event
  | receive receiver _ inductionHypothesis => exact inductionHypothesis.receive receiver

/-- What happened first is a history of its own. -/
theorem Ran.before (ran : Ran capacity (later ++ earlier) bus) :
    ∃ before, Ran capacity earlier before := by
  induction later generalizing bus with
  | nil => exact ⟨bus, ran⟩
  | cons _ _ inductionHypothesis =>
      cases ran with
      | subscribe _ ran => exact inductionHypothesis ran
      | unsubscribe _ ran => exact inductionHypothesis ran
      | publish _ _ ran => exact inductionHypothesis ran
      | receive _ ran => exact inductionHypothesis ran

/-- A receiver is there for one topic only. -/
theorem Serves.topic_unique {other : String} (serves : Serves events bus)
    (here : index ∈ live topic events) (there : index ∈ live other events) : topic = other := by
  obtain ⟨receiver, found, hears⟩ := (serves.isLive topic index).mp here
  obtain ⟨same, foundToo, hearsToo⟩ := (serves.isLive other index).mp there
  rw [found, Option.some.injEq] at foundToo
  subst foundToo
  rw [Receiver.listensTo, Bool.and_eq_true, beq_iff_eq] at hears hearsToo
  exact hears.2.symm.trans hearsToo.2

/-- A receiver that does not leave stays where it is. -/
theorem live_append (isLive : index ∈ live topic earlier) (stays : .left index ∉ later) :
    index ∈ live topic (later ++ earlier) := by
  induction later with
  | nil => exact isLive
  | cons happened rest inductionHypothesis =>
      obtain ⟨notNow, notLater⟩ := not_or.mp (mt List.mem_cons.mpr stays)
      have still := inductionHypothesis notLater
      cases happened with
      | joined other receiver =>
          rw [List.cons_append, live]
          split
          · exact List.mem_cons_of_mem _ still
          · exact still
      | left receiver =>
          rw [List.cons_append, live, List.mem_filter]
          exact ⟨still, by simpa using notNow⟩
      | published => exact still
      | taken => exact still

/-- A receiver that does not leave hears all that is published on its topic. -/
theorem Ran.heard_append (ran : Ran capacity (later ++ earlier) bus)
    (isLive : index ∈ live topic earlier) (stays : .left index ∉ later) :
    heard index (later ++ earlier) = heard index earlier ++ publishedOn topic later := by
  induction later generalizing bus with
  | nil => exact (List.append_nil _).symm
  | cons happened rest inductionHypothesis =>
      have notLater : .left index ∉ rest := fun leaves => stays (List.mem_cons_of_mem _ leaves)
      obtain ⟨before, ranBefore⟩ := @Ran.before _ _ _ [happened] ran
      have heardBefore := inductionHypothesis ranBefore notLater
      cases happened with
      | joined => exact heardBefore
      | left => exact heardBefore
      | taken => exact heardBefore
      | published other event reached =>
          have stillLive : index ∈ live topic (rest ++ earlier) := live_append isLive notLater
          have hears : index ∈ live other (rest ++ earlier) ↔ other = topic :=
            ⟨fun alsoLive => ranBefore.reflects.serves.topic_unique alsoLive stillLive,
              fun same => same ▸ stillLive⟩
          rw [List.cons_append, heard, heardBefore, publishedOn, List.append_assoc]
          simp only [hears]

/--
A published event reaches exactly the receivers that were added to its topic and have not left:
their number is the answer, each of them has the event once behind all that it has not passed,
and nobody else has it.  A receiver hears, from its start to its end and over all that others
do, everything that is published on its topic, in that order.  Of what it has not passed, the
latest events wait for it, up to what a channel keeps, and it is told first how many it missed.
A topic has its channel from its first receiver on, which counts every event that reached
somebody since then, and the sum over all channels is the number of all such events.
-/
theorem Ran.publish_reaches_live_and_counts (ran : Ran capacity events bus) :
    (∀ topic event, (live topic events).Nodup ∧
      (bus.publish topic event).1 = (live topic events).length ∧
        ∀ index, unread index (.published topic event (bus.publish topic event).1 :: events) =
          unread index events ++ if index ∈ live topic events then [event] else []) ∧
      (∀ topic index later earlier, events = later ++ earlier → index ∈ live topic earlier →
        .left index ∉ later → index ∈ live topic events ∧
          heard index events = heard index earlier ++ publishedOn topic later) ∧
      (∀ index (receiver : Receiver), bus.receivers[index]? = some receiver →
        receiver.pending = (unread index events).rtake (max 1 capacity).nextPowerOfTwo ∧
          receiver.missed = (unread index events).length - (max 1 capacity).nextPowerOfTwo) ∧
      (∀ index, (bus.receive index).1 =
        Receiver.nextOf (max 1 capacity).nextPowerOfTwo (unread index events)) ∧
      (bus.channels.map Channel.topic).Nodup ∧
      (∀ topic, bus.channel? topic =
        if events.any (BusEvent.joins topic)
        then some ⟨topic, events.countP (BusEvent.reaches topic)⟩ else none) ∧
      bus.totalSent = (bus.channels.map Channel.sent).sum ∧
      bus.totalSent = events.countP BusEvent.reachesSomebody := by
  have reflects := ran.reflects
  have serves := reflects.serves
  have counts := reflects.counts
  rw [← reflects.capacity_eq]
  refine ⟨fun topic event => ⟨serves.distinct topic, ?_, ?_⟩, ?_, ?_, ?_, counts.distinct,
    counts.channel, counts.sum, counts.total⟩
  · exact (publish_cases bus topic event).1.trans (reflects.receiverCount_eq topic)
  · exact serves.unread_published topic event _
  · rintro topic index later earlier rfl isLive stays
    exact ⟨live_append isLive stays, ran.heard_append isLive stays⟩
  · intro index receiver found
    have held := serves.holds index receiver found
    exact ⟨held.pending, held.missed⟩
  · exact serves.receive_eq_next reflects.isOpen

namespace Rejoined

/-- The news of the given version of a flag. -/
def news (version : Int64) : Invalidation :=
  .flagUpdated "prod" "checkout" version (.startOf ⟨2026, 1, 1, by decide⟩)

/-- A receiver joins a topic. -/
def joining (topic : String) (bus : Bus) : BusEvent × Bus :=
  (.joined topic (bus.subscribe topic).1, (bus.subscribe topic).2)

/-- A receiver leaves. -/
def leaving (receiver : Nat) (bus : Bus) : BusEvent × Bus :=
  (.left receiver, bus.unsubscribe receiver)

/-- The news of a version are published under a topic. -/
def publishing (topic : String) (version : Int64) (bus : Bus) : BusEvent × Bus :=
  (.published topic (news version) (bus.publish topic (news version)).1,
    (bus.publish topic (news version)).2)

/-- The first receiver of a topic leaves after one event, and another comes after the next. -/
def steps : List (Bus → BusEvent × Bus) :=
  [joining "flags", joining "other", publishing "flags" 1, leaving 0, publishing "flags" 2,
    joining "flags", publishing "flags" 3, publishing "flags" 4, publishing "flags" 5]

/-- The history of these steps on a bus whose channels keep two events. -/
def history : List BusEvent × Bus :=
  steps.foldl (fun (events, bus) step => ((step bus).1 :: events, (step bus).2))
    ([], .ofCapacity 2)

end Rejoined

open Rejoined in
/--
The second receiver missed the first of its three events, the receiver of the other topic has
none, and the channel counts four events: all but the one that reached nobody.
-/
theorem publish_reaches_live_and_counts_rejoined :
    Ran 2 history.1 history.2 ∧
      (history.2.publish "flags" (news 6)).1 = 1 ∧ unread 1 history.1 = [] ∧
        unread 2 history.1 = [news 3, news 4, news 5] ∧
          (history.2.receive 2).1 = .missed 1 ∧
            (∀ receiver, history.2.receivers[2]? = some receiver →
              receiver.pending = [news 4, news 5]) ∧
              history.2.channel? "flags" = some ⟨"flags", 4⟩ ∧ history.2.totalSent = 4 := by
  have ran : Ran 2 history.1 history.2 :=
    ((((((((Ran.start.subscribe "flags").subscribe "other").publish "flags" (news 1)).unsubscribe
      0).publish "flags" (news 2)).subscribe "flags").publish "flags" (news 3)).publish "flags"
        (news 4)).publish "flags" (news 5)
  obtain ⟨reaches, -, holds, receives, -, channel, -, total⟩ :=
    ran.publish_reaches_live_and_counts
  have there : live "flags" history.1 = [2] := by decide +kernel
  have waits : unread 2 history.1 = [news 3, news 4, news 5] := by decide +kernel
  refine ⟨ran, ?_, by decide +kernel, waits, ?_, fun receiver found => ?_, ?_, ?_⟩
  · rw [(reaches "flags" (news 6)).2.1, there]
    rfl
  · rw [receives, waits]
    decide +kernel
  · rw [(holds 2 receiver found).1, waits]
    decide +kernel
  · rw [channel]
    decide +kernel
  · rw [total]
    decide +kernel

end Bus

end Switchboard
