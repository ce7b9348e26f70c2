import Switchboard.Bus

namespace Switchboard

/-!
# Events on their way

As long as no receiver missed an event, what waits for a receiver is exactly what was
published since it last took something: publishing adds the event behind all that waits,
and taking removes the first.
-/

namespace Receiver

/-- An event that is kept without loss waits behind all others. -/
theorem push_of_missed {receiver : Receiver} {capacity : Nat} {event : Invalidation}
    (nothingMissed : (receiver.push capacity event).missed = 0) :
    receiver.push capacity event = { receiver with pending := receiver.pending ++ [event] } := by
  unfold push at nothingMissed ⊢
  obtain ⟨before, excess⟩ := Nat.add_eq_zero_iff.mp nothingMissed
  simp only [before, excess, List.drop_zero]

end Receiver

namespace Bus

variable {bus : Bus} {topic : String} {event : Invalidation} {index : Nat} {receiver : Receiver}

/-- No receiver lost an event because it fell behind. -/
def KeepsUp (bus : Bus) : Prop :=
  ∀ receiver ∈ bus.receivers, receiver.missed = 0

instance (bus : Bus) : Decidable bus.KeepsUp :=
  inferInstanceAs (Decidable (∀ receiver ∈ bus.receivers, receiver.missed = 0))

/-- Publishing hands the event to the receivers of the topic and to no other. -/
theorem receivers_publish (bus : Bus) (topic : String) (event : Invalidation) :
    (bus.publish topic event).2.receivers =
      bus.receivers.map fun receiver =>
        if receiver.listensTo topic then receiver.push bus.capacity event else receiver := by
  by_cases nobody : bus.receiverCount topic = 0
  · have unheard := List.countP_eq_zero.mp nobody
    have unchanged : ∀ receiver ∈ bus.receivers,
        (if receiver.listensTo topic then receiver.push bus.capacity event else receiver) =
          receiver := by
      intro receiver member
      exact if_neg (unheard receiver member)
    rw [List.map_congr_left unchanged, List.map_id']
    simp only [publish, nobody, ↓reduceIte]
  · simp only [publish, nobody, ↓reduceIte]

/-- Where nothing is missed, a receiver of the topic has the event behind all that waited. -/
theorem receiver_publish_self
    (found : bus.receivers[index]? = some receiver)
    (hears : receiver.listensTo topic = true)
    (keepsUp : (bus.publish topic event).2.KeepsUp) :
    (bus.publish topic event).2.receivers[index]? =
      some { receiver with pending := receiver.pending ++ [event] } := by
  have pushed : (bus.publish topic event).2.receivers[index]? =
      some (receiver.push bus.capacity event) := by
    rw [receivers_publish, List.getElem?_map, found, Option.map_some, if_pos hears]
  have nothingMissed := keepsUp _ (List.mem_of_getElem? pushed)
  rw [pushed, Receiver.push_of_missed nothingMissed]

/-- What a receiver takes that missed nothing. -/
theorem receive_eq
    (found : bus.receivers[index]? = some receiver)
    (nothingMissed : receiver.missed = 0) :
    bus.receive index =
      match receiver.pending with
      | event :: rest =>
          (.event event,
            { bus with receivers := bus.receivers.set index { receiver with pending := rest } })
      | [] => (if bus.isClosed then .closed else .nothing, bus) := by
  have notBehind : ¬0 < receiver.missed := by
    rw [nothingMissed]
    exact Nat.lt_irrefl 0
  unfold receive
  simp only [found, Receiver.take, if_neg notBehind]
  cases waiting : receiver.pending with
  | nil =>
      obtain ⟨inRange, isReceiver⟩ := List.getElem?_eq_some_iff.mp found
      have unchanged : bus.receivers.set index receiver = bus.receivers := by
        rw [← isReceiver, List.set_getElem_self]
      simp only [unchanged]
  | cons event rest => rfl

/-- A bus that has nothing for a receiver stays as it is. -/
theorem receive_idle (bus : Bus) (index : Nat)
    (idle : (bus.receive index).1 = .nothing ∨ (bus.receive index).1 = .closed) :
    (bus.receive index).2 = bus := by
  cases found : bus.receivers[index]? with
  | none =>
      unfold receive
      rw [found]
  | some receiver =>
      by_cases behind : 0 < receiver.missed
      · simp [receive, found, Receiver.take, behind] at idle
      · rw [receive_eq found (Nat.eq_zero_of_not_pos behind)] at idle ⊢
        cases waiting : receiver.pending with
        | nil => rfl
        | cons event rest => simp [waiting] at idle

end Bus

end Switchboard
