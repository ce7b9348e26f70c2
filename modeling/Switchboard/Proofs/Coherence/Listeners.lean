import Switchboard.Proofs.Coherence.Members
import Switchboard.Proofs.Coherence.Moves

namespace Switchboard.Cluster

/-!
# What listeners have yet to hear

Every instance works, speaks on the topic of the cluster, and listens by a receiver of its
own.  Then a published event waits for everybody who listens, and taking a delivery
concerns nobody else.
-/

/-- A receiver gets every event of a topic and has lost none. -/
def Hears (topic : String) (bus : Bus) (index : Nat) : Prop :=
  ∃ receiver, bus.receivers[index]? = some receiver ∧ receiver.listensTo topic = true ∧
    receiver.missed = 0

/-- Every instance works, speaks on a topic and hears it by a receiver of its own. -/
structure IsAttached (topic : String) (world : World) : Prop where
  working : ∀ (place : Nat) (state : Instance), world.instances[place]? = some state →
    state.backends = {}
  speaks : ∀ (place : Nat) (state : Instance), world.instances[place]? = some state →
    state.service.layer.topic = topic
  hears : ∀ place index, listener? world place = some index → Hears topic world.bus index
  apart : ∀ first second index, listener? world first = some index →
    listener? world second = some index → first = second

variable {topic : String} {world before after : World} {place : Nat}

/-- Who listens is a matter of standing. -/
theorem listener_of_standings
    (standings : ∀ other : Nat,
      after.instances[other]?.map standing = before.instances[other]?.map standing)
    (place : Nat) :
    listener? after place = listener? before place := by
  have listeners (world : World) :
      listener? world place =
        (world.instances[place]?.map standing).bind Standing.listener := by
    unfold listener?
    cases world.instances[place]? with
    | none => rfl
    | some state => rfl
  rw [listeners, listeners, standings]

/-- Instances that keep their standing stay attached to a bus that they still hear. -/
theorem IsAttached.of_standings (attached : IsAttached topic before)
    (standings : ∀ other : Nat,
      after.instances[other]?.map standing = before.instances[other]?.map standing)
    (hears : ∀ index, Hears topic before.bus index → Hears topic after.bus index) :
    IsAttached topic after := by
  have origin {place : Nat} {state : Instance} (present : after.instances[place]? = some state) :
      ∃ earlier, before.instances[place]? = some earlier ∧ standing earlier = standing state := by
    have same := standings place
    rw [present, Option.map_some] at same
    exact Option.map_eq_some_iff.mp same.symm
  have listeners := listener_of_standings standings
  refine {
    working := ?_
    speaks := ?_
    hears := ?_
    apart := ?_ }
  · intro place state present
    obtain ⟨earlier, earlierPresent, same⟩ := origin present
    exact (congrArg Standing.backends same).symm.trans
      (attached.working place earlier earlierPresent)
  · intro place state present
    obtain ⟨earlier, earlierPresent, same⟩ := origin present
    have service : earlier.service = state.service := congrArg Standing.service same
    rw [← service]
    exact attached.speaks place earlier earlierPresent
  · intro place index listens
    exact hears index (attached.hears place index (listeners place ▸ listens))
  · intro first second index firstListens secondListens
    exact attached.apart first second index (listeners first ▸ firstListens)
      (listeners second ▸ secondListens)

/-- What waits depends on who listens and on the receivers. -/
theorem waiting_congr
    (listener : listener? after place = listener? before place)
    (receivers : after.bus.receivers = before.bus.receivers) :
    waiting after place = waiting before place := by
  unfold waiting
  rw [listener, receivers]

theorem waiting_eq {index : Nat} {receiver : Receiver}
    (listens : listener? world place = some index)
    (found : world.bus.receivers[index]? = some receiver) :
    waiting world place = receiver.pending := by
  simp [waiting, listens, found]

/-- Publishing keeps everybody hearing who does not fall behind. -/
theorem hears_publish {bus : Bus} {event : Invalidation} {index : Nat}
    (keepsUp : (bus.publish topic event).2.KeepsUp)
    (hears : Hears topic bus index) :
    Hears topic (bus.publish topic event).2 index := by
  obtain ⟨receiver, found, listens, nothingMissed⟩ := hears
  exact ⟨_, Bus.receiver_publish_self found listens keepsUp, listens, nothingMissed⟩

/-- A published event waits for everybody who listens, behind all that waited. -/
theorem waiting_publish {event : Invalidation} {index : Nat}
    (attached : IsAttached topic before)
    (bus : after.bus = (before.bus.publish topic event).2)
    (keepsUp : after.bus.KeepsUp)
    (listener : listener? after place = listener? before place)
    (listens : listener? before place = some index) :
    waiting after place = waiting before place ++ [event] := by
  obtain ⟨receiver, found, hearsTopic, _⟩ := attached.hears place index listens
  rw [bus] at keepsUp
  have pushed := Bus.receiver_publish_self found hearsTopic keepsUp
  rw [← bus] at pushed
  rw [waiting_eq (listener.trans listens) pushed, waiting_eq listens found]

/-- The first event that waits is taken, its entry is dropped, and nobody else is concerned. -/
structure Delivers (place : Nat) (event : Invalidation) (before after : World) : Prop where
  database : after.database = before.database
  calendar : after.calendar = before.calendar
  standings : ∀ other : Nat,
    after.instances[other]?.map standing = before.instances[other]?.map standing
  first : waiting before place = event :: waiting after place
  others : ∀ other, other ≠ place → waiting after other = waiting before other
  dropped : after.held place event.cacheKey = none
  losing : ∀ other cacheKey text,
    after.held other cacheKey = some text → before.held other cacheKey = some text

theorem standing_applyDeliveries (state : Instance) (deliveries : List Delivery) :
    standing (state.applyDeliveries deliveries) = standing state := by
  unfold Instance.applyDeliveries
  split
  · rfl
  · rfl

/-- What the listener of an instance and its receiver are like around a delivery. -/
private structure Takes (place index : Nat) (receiver : Receiver) (event : Invalidation)
    (rest : List Invalidation) (before after : World) : Prop where
  listens : listener? before place = some index
  found : before.bus.receivers[index]? = some receiver
  pending : receiver.pending = event :: rest
  standings : ∀ other : Nat,
    after.instances[other]?.map standing = before.instances[other]?.map standing
  receivers : after.bus.receivers =
    before.bus.receivers.set index { receiver with pending := rest }

private theorem takes_deliver {state : Instance} {index : Nat} {receiver : Receiver}
    {event : Invalidation} {rest : List Invalidation}
    (present : world.instances[place]? = some state)
    (listens : state.listener = some index)
    (found : world.bus.receivers[index]? = some receiver)
    (nothingMissed : receiver.missed = 0)
    (pending : receiver.pending = event :: rest) :
    Takes place index receiver event rest world (world.deliver place) ∧
      (world.deliver place).database = world.database ∧
        (world.deliver place).calendar = world.calendar ∧
          (world.deliver place).instances =
            world.instances.set place (state.applyDeliveries [.event event]) := by
  have received := Bus.receive_eq found nothingMissed
  simp only [pending] at received
  have delivered := World.deliver_eq present listens
  rw [received] at delivered
  rw [delivered]
  refine ⟨{
    listens := ?_
    found := found
    pending := pending
    standings := ?_
    receivers := rfl }, rfl, rfl, rfl⟩
  · unfold listener?
    rw [present]
    exact listens
  · exact World.map_putInstance present (standing_applyDeliveries state _)

namespace Takes

variable {index : Nat} {receiver : Receiver} {event : Invalidation} {rest : List Invalidation}

private theorem first (takes : Takes place index receiver event rest before after) :
    waiting before place = event :: waiting after place := by
  have inRange : index < before.bus.receivers.length :=
    (List.getElem?_eq_some_iff.mp takes.found).1
  have taken : after.bus.receivers[index]? = some { receiver with pending := rest } := by
    rw [takes.receivers]
    exact List.getElem?_set_self inRange
  have stillListens := (listener_of_standings takes.standings place).trans takes.listens
  rw [waiting_eq takes.listens takes.found, waiting_eq stillListens taken]
  exact takes.pending

/-- Nobody else listens by the same receiver. -/
private theorem others (takes : Takes place index receiver event rest before after)
    (attached : IsAttached topic before)
    (other : Nat)
    (different : other ≠ place) :
    waiting after other = waiting before other := by
  unfold waiting
  rw [listener_of_standings takes.standings other, takes.receivers]
  cases listens : listener? before other with
  | none => rfl
  | some otherIndex =>
      have notHere : index ≠ otherIndex := by
        rintro rfl
        exact different (attached.apart other place index listens takes.listens)
      simp only [Option.bind_some, List.getElem?_set_ne notHere]

private theorem attached (takes : Takes place index receiver event rest before after)
    (attached : IsAttached topic before) :
    IsAttached topic after := by
  refine attached.of_standings takes.standings ?_
  rintro other ⟨otherReceiver, otherFound, listens, nothingMissed⟩
  have inRange : index < before.bus.receivers.length :=
    (List.getElem?_eq_some_iff.mp takes.found).1
  unfold Hears
  rw [takes.receivers]
  by_cases here : index = other
  · subst here
    obtain rfl := Option.some.inj (takes.found.symm.trans otherFound)
    exact ⟨{ receiver with pending := rest }, List.getElem?_set_self inRange, listens,
      nothingMissed⟩
  · exact ⟨otherReceiver, (List.getElem?_set_ne here).trans otherFound, listens, nothingMissed⟩

end Takes

private theorem held_of_delivery {state : Instance} {event : Invalidation}
    (present : before.instances[place]? = some state)
    (working : state.backends.cache = .working)
    (instances : after.instances =
      before.instances.set place (state.applyDeliveries [.event event])) :
    after.held place event.cacheKey = none ∧
      ∀ other cacheKey text,
        after.held other cacheKey = some text → before.held other cacheKey = some text := by
  have inPlace : place < before.instances.length := (List.getElem?_eq_some_iff.mp present).1
  unfold World.held
  rw [instances]
  constructor
  · simp [inPlace, Instance.applyDeliveries, working, Cache.applyDelivery, Cache.text_erase_self]
  · intro other cacheKey text kept
    by_cases here : place = other
    · subst here
      rw [List.getElem?_set_self inPlace, Option.bind_some] at kept
      rw [present]
      exact World.loses_applyDeliveries state _ cacheKey text kept
    · rwa [List.getElem?_set_ne here] at kept

private theorem delivers_of_pending {state : Instance} {index : Nat} {receiver : Receiver}
    {event : Invalidation} {rest : List Invalidation}
    (attached : IsAttached topic world)
    (present : world.instances[place]? = some state)
    (listens : state.listener = some index)
    (found : world.bus.receivers[index]? = some receiver)
    (nothingMissed : receiver.missed = 0)
    (pending : receiver.pending = event :: rest) :
    Delivers place event world (world.deliver place) ∧
      IsAttached topic (world.deliver place) := by
  obtain ⟨takes, database, calendar, instances⟩ :=
    takes_deliver present listens found nothingMissed pending
  have working : state.backends.cache = .working :=
    congrArg Backends.cache (attached.working place state present)
  obtain ⟨dropped, losing⟩ := held_of_delivery present working instances
  exact ⟨{
    database := database
    calendar := calendar
    standings := takes.standings
    first := takes.first
    others := takes.others attached
    dropped := dropped
    losing := losing }, takes.attached attached⟩

/-- A listener takes the first event that waits for it, unless nothing does. -/
theorem delivers (attached : IsAttached topic world) (place : Nat) :
    world.deliver place = world ∨
      ∃ event, Delivers place event world (world.deliver place) ∧
        IsAttached topic (world.deliver place) := by
  cases present : world.instances[place]? with
  | none =>
      refine .inl ?_
      unfold World.deliver
      rw [present]
  | some state =>
      cases listens : state.listener with
      | none =>
          refine .inl ?_
          unfold World.deliver
          simp only [present, listens]
      | some index =>
          have listensHere : listener? world place = some index := by
            unfold listener?
            rw [present]
            exact listens
          obtain ⟨receiver, found, _, nothingMissed⟩ := attached.hears place index listensHere
          cases pending : receiver.pending with
          | nil =>
              refine .inl (World.deliver_idle present listens ?_)
              rw [Bus.receive_eq found nothingMissed]
              simp only [pending]
              cases world.bus.isClosed with
              | true => exact .inr rfl
              | false => exact .inl rfl
          | cons event rest =>
              exact .inr ⟨event,
                delivers_of_pending attached present listens found nothingMissed pending⟩

end Switchboard.Cluster
