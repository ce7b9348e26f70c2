import Mathlib.Logic.Function.Iterate
import Switchboard.Deployment.Settings
import Switchboard.Proofs.Bus
import Switchboard.Proofs.Deployment.Background

namespace Switchboard.World

/-!
# One delivery at a time

A listener takes one delivery, drops the entry that it names, and comes back for the
next.  Letting it take everything that waits is the same as letting it take one delivery
after the other.  A listener may also start later than its instance.
-/

/-- Let the listener of an instance take the next delivery, if there is one. -/
def deliver (world : World) (place : Nat) : World :=
  match world.instances[place]? with
  | none => world
  | some state =>
      match state.listener with
      | none => world
      | some index =>
          let (delivery, bus) := world.bus.receive index
          { world with bus }.putInstance place (state.applyDeliveries [delivery])

/-- Start the listener of an instance that has none. -/
def listen (world : World) (place : Nat) : World :=
  match world.instances[place]? with
  | none => world
  | some state =>
      match state.listener with
      | some _ => world
      | none =>
          let (index, bus) := world.bus.subscribe state.service.layer.topic
          { world with bus }.putInstance place { state with listener := some index }

variable {world : World} {place index : Nat} {state : Instance}

theorem deliver_eq (present : world.instances[place]? = some state)
    (listens : state.listener = some index) :
    world.deliver place =
      { world with bus := (world.bus.receive index).2 }.putInstance place
        (state.applyDeliveries [(world.bus.receive index).1]) := by
  unfold deliver
  simp only [present, listens]

theorem listen_eq (present : world.instances[place]? = some state)
    (deaf : state.listener = none) :
    world.listen place =
      { world with bus := (world.bus.subscribe state.service.layer.topic).2 }.putInstance place
        { state with listener := some world.bus.receivers.length } := by
  unfold listen Bus.subscribe
  simp only [present, deaf]

/-- Putting an instance where it is changes nothing. -/
theorem putInstance_self (present : world.instances[place]? = some state) :
    world.putInstance place state = world := by
  obtain ⟨inRange, isState⟩ := List.getElem?_eq_some_iff.mp present
  unfold putInstance
  rw [← isState, List.set_getElem_self]

/-- An instance that listens from its beginning is one whose listener starts at once. -/
theorem addInstance_eq_listen {settings : InstanceSettings} (listens : settings.listens = true) :
    world.addInstance settings =
      (world.addInstance { settings with listens := false }).listen world.instances.length := by
  have present :
      (world.addInstance { settings with listens := false }).instances[world.instances.length]? =
        some {
          service := settings.service
          cache := .empty settings.cacheLimit
          sink := settings.sink world.clock
          timeout := settings.timeout } := by
    simp only [addInstance]
    exact List.getElem?_concat_length
  rw [listen_eq present rfl]
  simp only [addInstance, putInstance, listens, if_true]
  rw [List.set_append_right _ _ (Nat.le_refl _), Nat.sub_self]
  rfl

end Switchboard.World

namespace Switchboard

theorem Instance.applyDeliveries_nil (state : Instance) : state.applyDeliveries [] = state := by
  unfold applyDeliveries
  split
  · rfl
  · rfl

theorem Instance.applyDeliveries_cons (state : Instance) (delivery : Delivery)
    (deliveries : List Delivery) :
    state.applyDeliveries (delivery :: deliveries) =
      (state.applyDeliveries [delivery]).applyDeliveries deliveries := by
  unfold applyDeliveries
  cases working : state.backends.cache with
  | working => simp only [List.foldl_cons, List.foldl_nil, working]
  | failing => simp only [working]
  | hanging => simp only [working]

theorem Instance.listener_applyDeliveries (state : Instance) (deliveries : List Delivery) :
    (state.applyDeliveries deliveries).listener = state.listener := by
  unfold applyDeliveries
  split
  · rfl
  · rfl

namespace World

variable {world : World} {place index : Nat} {state : Instance}

private theorem applyDeliveries_idle {delivery : Delivery}
    (state : Instance)
    (idle : delivery = .nothing ∨ delivery = .closed) :
    state.applyDeliveries [delivery] = state := by
  unfold Instance.applyDeliveries
  rcases idle with rfl | rfl
  · split
    · rfl
    · rfl
  · split
    · rfl
    · rfl

/-- A listener that has nothing to take stays as it is. -/
theorem deliver_idle (present : world.instances[place]? = some state)
    (listens : state.listener = some index)
    (idle : (world.bus.receive index).1 = .nothing ∨ (world.bus.receive index).1 = .closed) :
    world.deliver place = world := by
  rw [deliver_eq present listens, world.bus.receive_idle index idle,
    applyDeliveries_idle state idle]
  exact putInstance_self present

private theorem deliver_present (present : world.instances[place]? = some state)
    (listens : state.listener = some index) :
    (world.deliver place).instances[place]? =
      some (state.applyDeliveries [(world.bus.receive index).1]) := by
  have inRange : place < world.instances.length := (List.getElem?_eq_some_iff.mp present).1
  rw [deliver_eq present listens]
  exact List.getElem?_set_self inRange

/-- Taking at most a number of deliveries is taking one that many times. -/
private theorem receiveAll_eq_iterate (count : Nat)
    (present : world.instances[place]? = some state)
    (listens : state.listener = some index) :
    { world with bus := (world.bus.receiveAll index count).2 }.putInstance place
        (state.applyDeliveries (world.bus.receiveAll index count).1) =
      (deliver · place)^[count] world := by
  induction count generalizing world state with
  | zero =>
      simp only [Bus.receiveAll, Instance.applyDeliveries_nil, Function.iterate_zero, id_eq]
      exact putInstance_self present
  | succ count inductionHypothesis =>
      rw [Function.iterate_succ_apply]
      have stays (idle : (world.bus.receive index).1 = .nothing ∨
          (world.bus.receive index).1 = .closed) :
          (deliver · place)^[count] (world.deliver place) = world := by
        have idles := deliver_idle present listens idle
        rw [idles]
        exact Function.iterate_fixed idles count
      have goesOn := inductionHypothesis (deliver_present present listens)
        ((state.listener_applyDeliveries _).trans listens)
      have delivered := deliver_eq present listens
      have same := world.bus.receive_idle index
      unfold Bus.receiveAll
      rcases received : world.bus.receive index with ⟨delivery, bus⟩
      rw [received] at stays goesOn delivered same
      cases delivery with
      | nothing =>
          rw [stays (.inl rfl), Instance.applyDeliveries_nil, same (.inl rfl)]
          exact putInstance_self present
      | closed =>
          rw [stays (.inr rfl), same (.inr rfl)]
          exact (congrArg (world.putInstance place) (applyDeliveries_idle state (.inr rfl))).trans
            (putInstance_self present)
      | event event =>
          rw [← goesOn, delivered, ← Instance.applyDeliveries_cons]
          simp only [putInstance, List.set_set]
      | missed number =>
          rw [← goesOn, delivered, ← Instance.applyDeliveries_cons]
          simp only [putInstance, List.set_set]

/-- A listener that takes everything takes one delivery after the other. -/
theorem drainListener_eq_deliver {receiver : Receiver}
    (present : world.instances[place]? = some state)
    (listens : state.listener = some index)
    (found : world.bus.receivers[index]? = some receiver) :
    world.drainListener place = (deliver · place)^[receiver.pending.length + 2] world := by
  rw [← receiveAll_eq_iterate _ present listens]
  unfold drainListener Bus.drain
  simp only [present, listens, found]

end World

end Switchboard
