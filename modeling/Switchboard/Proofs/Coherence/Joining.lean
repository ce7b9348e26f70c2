import Switchboard.Proofs.Coherence.Listeners
import Switchboard.Proofs.Places

namespace Switchboard.Cluster

/-!
# Joining a cluster

An instance joins with an empty cache.  Whether its listener starts with it or later, it
hears all that is published from then on, and nobody else is concerned.
-/

/-- The instance in a place, which did not listen, came or began to; nobody else changed. -/
structure Admits (place : Nat) (before after : World) : Prop where
  database : after.database = before.database
  calendar : after.calendar = before.calendar
  held : ∀ other cacheKey, after.held other cacheKey = before.held other cacheKey
  deaf : listener? before place = none
  listeners : ∀ other, other ≠ place → listener? after other = listener? before other
  waiting : ∀ other, other ≠ place → waiting after other = waiting before other

variable {topic : String} {world : World} {place : Nat}

/-- The instance that joins without a listener. -/
private def silent (settings : InstanceSettings) (clock : Nat) : Instance where
  service := settings.service
  cache := .empty settings.cacheLimit
  sink := settings.sink clock
  timeout := settings.timeout

private theorem addInstance_silent {settings : InstanceSettings}
    (deaf : settings.listens = false) :
    world.addInstance settings =
      { world with instances := world.instances ++ [silent settings world.clock] } := by
  simp only [World.addInstance, silent, deaf, Bool.false_eq_true, if_false]

/-- An instance that joins without a listener hears nothing, and nobody hears of it. -/
theorem admits_addInstance {settings : InstanceSettings}
    (attached : IsAttached topic world)
    (onTopic : settings.topic = topic)
    (deaf : settings.listens = false) :
    Admits world.instances.length world (world.addInstance settings) ∧
      IsAttached topic (world.addInstance settings) := by
  rw [addInstance_silent deaf]
  have listeners (other : Nat) :
      listener? { world with instances := world.instances ++ [silent settings world.clock] }
        other = listener? world other :=
    bind_getElem_snoc rfl other
  refine ⟨{
    database := rfl
    calendar := rfl
    held := fun other cacheKey => bind_getElem_snoc rfl other
    deaf := ?_
    listeners := fun other _ => listeners other
    waiting := fun other _ => waiting_congr (listeners other) rfl }, {
    working := ?_
    speaks := ?_
    hears := ?_
    apart := ?_ }⟩
  · unfold listener?
    rw [List.getElem?_eq_none (Nat.le_refl _)]
    rfl
  · intro place state present
    rcases getElem_snoc present with ⟨_, earlier⟩ | ⟨_, rfl⟩
    · exact attached.working place state earlier
    · rfl
  · intro place state present
    rcases getElem_snoc present with ⟨_, earlier⟩ | ⟨_, rfl⟩
    · exact attached.speaks place state earlier
    · exact onTopic
  · intro place index listens
    exact attached.hears place index (listeners place ▸ listens)
  · intro first second index firstListens secondListens
    exact attached.apart first second index (listeners first ▸ firstListens)
      (listeners second ▸ secondListens)

private theorem hears_subscribe {bus : Bus} {index : Nat} (hears : Hears topic bus index) :
    index < bus.receivers.length ∧ Hears topic (bus.subscribe topic).2 index := by
  obtain ⟨receiver, found, listens, nothingMissed⟩ := hears
  have inRange := (List.getElem?_eq_some_iff.mp found).1
  exact ⟨inRange, receiver, (List.getElem?_append_left inRange).trans found, listens,
    nothingMissed⟩

private theorem hears_subscribed (topic : String) (bus : Bus) :
    Hears topic (bus.subscribe topic).2 bus.receivers.length :=
  ⟨{ topic }, List.getElem?_concat_length, beq_self_eq_true topic, rfl⟩

/-- The listener of an instance started by a new receiver. -/
private structure Starts (topic : String) (place : Nat) (state : Instance)
    (before after : World) : Prop where
  database : after.database = before.database
  calendar : after.calendar = before.calendar
  bus : after.bus = (before.bus.subscribe topic).2
  earlier : before.instances[place]? = some state
  deaf : state.listener = none
  here : after.instances[place]? =
    some { state with listener := some before.bus.receivers.length }
  elsewhere : ∀ other, other ≠ place → after.instances[other]? = before.instances[other]?

private theorem starts_listen {state : Instance}
    (attached : IsAttached topic world)
    (present : world.instances[place]? = some state)
    (deaf : state.listener = none) :
    Starts topic place state world (world.listen place) := by
  have inPlace : place < world.instances.length := (List.getElem?_eq_some_iff.mp present).1
  rw [World.listen_eq present deaf, attached.speaks place state present]
  exact {
    database := rfl
    calendar := rfl
    bus := rfl
    earlier := present
    deaf := deaf
    here := List.getElem?_set_self inPlace
    elsewhere := fun _ different => List.getElem?_set_ne different.symm }

namespace Starts

variable {state : Instance} {before after : World}

private theorem listener_here (starts : Starts topic place state before after) :
    listener? after place = some before.bus.receivers.length := by
  unfold listener?
  rw [starts.here]
  rfl

private theorem listener_elsewhere (starts : Starts topic place state before after)
    (other : Nat)
    (different : other ≠ place) :
    listener? after other = listener? before other := by
  unfold listener?
  rw [starts.elsewhere other different]

private theorem origin (starts : Starts topic place state before after)
    {other : Nat}
    {changed : Instance}
    (found : after.instances[other]? = some changed) :
    ∃ earlier, before.instances[other]? = some earlier ∧
      changed.backends = earlier.backends ∧ changed.service = earlier.service := by
  by_cases isHere : other = place
  · subst isHere
    obtain rfl := Option.some.inj (starts.here.symm.trans found)
    exact ⟨state, starts.earlier, rfl, rfl⟩
  · exact ⟨changed, (starts.elsewhere other isHere).symm.trans found, rfl, rfl⟩

private theorem admits (starts : Starts topic place state before after)
    (attached : IsAttached topic before) :
    Admits place before after where
  database := starts.database
  calendar := starts.calendar
  held other cacheKey := by
    unfold World.held
    by_cases isHere : other = place
    · subst isHere
      rw [starts.here, starts.earlier]
      rfl
    · rw [starts.elsewhere other isHere]
  deaf := by
    unfold listener?
    rw [starts.earlier]
    exact starts.deaf
  listeners := starts.listener_elsewhere
  waiting other different := by
    have same := starts.listener_elsewhere other different
    cases listens : listener? before other with
    | none =>
        unfold waiting
        rw [same, listens]
        rfl
    | some index =>
        obtain ⟨receiver, found, _, _⟩ := attached.hears other index listens
        have inRange := (List.getElem?_eq_some_iff.mp found).1
        have stillFound : after.bus.receivers[index]? = some receiver := by
          rw [starts.bus]
          exact (List.getElem?_append_left inRange).trans found
        rw [waiting_eq listens found, waiting_eq (same.trans listens) stillFound]

private theorem attached (starts : Starts topic place state before after)
    (attached : IsAttached topic before) :
    IsAttached topic after where
  working other changed found := by
    obtain ⟨earlier, wasThere, backends, _⟩ := starts.origin found
    exact backends.trans (attached.working other earlier wasThere)
  speaks other changed found := by
    obtain ⟨earlier, wasThere, _, service⟩ := starts.origin found
    rw [service]
    exact attached.speaks other earlier wasThere
  hears other index listens := by
    rw [starts.bus]
    by_cases isHere : other = place
    · subst isHere
      obtain rfl := Option.some.inj (starts.listener_here.symm.trans listens)
      exact hears_subscribed topic before.bus
    · have listened := (starts.listener_elsewhere other isHere).symm.trans listens
      exact (hears_subscribe (attached.hears other index listened)).2
  apart first second index firstListens secondListens := by
    have isNew {other : Nat} (listens : listener? after other = some index)
        (different : other ≠ place) :
        index ≠ before.bus.receivers.length := by
      have listened := (starts.listener_elsewhere other different).symm.trans listens
      exact Nat.ne_of_lt (hears_subscribe (attached.hears other index listened)).1
    have isHere {other : Nat} (listens : listener? after other = some index)
        (same : other = place) :
        index = before.bus.receivers.length := by
      subst same
      exact Option.some.inj (listens.symm.trans starts.listener_here)
    by_cases firstHere : first = place
    · by_cases secondHere : second = place
      · exact firstHere.trans secondHere.symm
      · exact absurd (isHere firstListens firstHere) (isNew secondListens secondHere)
    · by_cases secondHere : second = place
      · exact absurd (isHere secondListens secondHere) (isNew firstListens firstHere)
      · exact attached.apart first second index
          ((starts.listener_elsewhere first firstHere).symm.trans firstListens)
          ((starts.listener_elsewhere second secondHere).symm.trans secondListens)

end Starts

/-- A listener that starts hears what is published from then on. -/
theorem admits_listen {state : Instance}
    (attached : IsAttached topic world)
    (present : world.instances[place]? = some state)
    (deaf : state.listener = none) :
    Admits place world (world.listen place) ∧ IsAttached topic (world.listen place) :=
  have starts := starts_listen attached present deaf
  ⟨starts.admits attached, starts.attached attached⟩

end Switchboard.Cluster
