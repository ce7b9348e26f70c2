import Switchboard.Proofs.Coherence.Listeners
import Switchboard.Proofs.Deployment.Entries
import Switchboard.Proofs.Layer.Terms

namespace Switchboard

/-!
# Operations in any weather

Backends may fail, hang or work again before each request of an operation.  Whatever they do,
the clock does not go back, every instance keeps its service, and entries of the caches are
old, with the deadlines that they had, but for those that a request set.
-/

namespace World

open Cluster (standing Standing)

/--
The clock may have run on, instances may have joined, and no entry is new but those that are
added.
-/
structure Continues
    (added : Nat → String → CacheEntry → Prop)
    (before after : World) : Prop where
  clock : before.clock ≤ after.clock
  services : ∀ (place : Nat) (state : Instance), before.instances[place]? = some state →
    ∃ changed, after.instances[place]? = some changed ∧ changed.service = state.service
  entries : AddsOnly added before after

variable {added : Nat → String → CacheEntry → Prop} {world before after : World} {place : Nat}

namespace Continues

theorem of_holds (holds : Holds added before after) : Continues added before after where
  clock := Nat.le_of_eq holds.clock.symm
  services place state present := by
    have same := holds.standings place
    rw [present, Option.map_some] at same
    obtain ⟨changed, there, stands⟩ := Option.map_eq_some_iff.mp same
    exact ⟨changed, there, congrArg Standing.service stands⟩
  entries := holds.entries

theorem of_instances (clock : before.clock ≤ after.clock)
    (same : after.instances = before.instances) :
    Continues added before after where
  clock := clock
  services _ state present := ⟨state, same ▸ present, rfl⟩
  entries := .of_instances same

/-- Where nothing is added first, what is added is what is added then. -/
theorem prepend {first second third : World}
    (earlier : Continues nothing first second)
    (later : Continues added second third) :
    Continues added first third where
  clock := Nat.le_trans earlier.clock later.clock
  services place state present := by
    obtain ⟨middle, there, same⟩ := earlier.services place state present
    obtain ⟨changed, isThere, isSame⟩ := later.services place middle there
    exact ⟨changed, isThere, isSame.trans same⟩
  entries := earlier.entries.prepend later.entries

/-- An instance that keeps its service is put where it was, with what its cache kept. -/
theorem putInstance {state changed : Instance}
    (present : world.instances[place]? = some state)
    (service : changed.service = state.service)
    (ages : Cache.Ages state.cache changed.cache) :
    Continues added world (world.putInstance place changed) where
  clock := Nat.le_refl _
  services other otherState otherPresent := by
    by_cases here : other = place
    · subst here
      cases present.symm.trans otherPresent
      exact ⟨changed, present_putInstance present changed, service⟩
    · exact ⟨otherState, (putInstance_other here).trans otherPresent, rfl⟩
  entries := .putInstance present ages

end Continues

/-! ## What goes on by itself -/

/-- An instance that joins has nothing cached. -/
theorem continues_addInstance (world : World) (settings : InstanceSettings) :
    Continues nothing world (world.addInstance settings) where
  clock := Nat.le_refl _
  services place state present := by
    have inRange : place < world.instances.length := (List.getElem?_eq_some_iff.mp present).1
    exact ⟨state, (List.getElem?_append_left inRange).trans present, rfl⟩
  entries place cacheKey entry held := by
    obtain ⟨state, present, found⟩ := Option.bind_eq_some_iff.mp held
    simp only [addInstance, List.getElem?_append] at present
    split at present
    · exact .inl ⟨entry, Option.bind_eq_some_iff.mpr ⟨state, present, found⟩, rfl, rfl⟩
    · obtain ⟨_, isNew⟩ := List.getElem?_eq_some_iff.mp present
      rw [← isNew, List.getElem_singleton] at found
      cases found

theorem continues_listen (world : World) (place : Nat) :
    Continues nothing world (world.listen place) := by
  unfold listen
  split
  · exact .of_holds (.refl world)
  · rename_i state present
    split
    · exact .of_holds (.refl world)
    · have subscribed : Continues nothing world
          { world with bus := (world.bus.subscribe state.service.layer.topic).2 } :=
        .of_instances (Nat.le_refl _) rfl
      exact subscribed.prepend (.putInstance present rfl (.refl _))

theorem holds_deliver (world : World) (place : Nat) :
    Holds nothing world (world.deliver place) := by
  unfold deliver
  split
  · exact .refl world
  · rename_i state present
    split
    · exact .refl world
    · rename_i index _
      have taken : Holds nothing world { world with bus := (world.bus.receive index).2 } :=
        .of_instances rfl rfl
      exact taken.prepend (.putInstance present (Cluster.standing_applyDeliveries state _)
        (ages_applyDeliveries state _))

/-- Background work takes no time, and brings no entry. -/
theorem Holds.keptInBackground : KeptInBackground (Holds nothing) where
  refl := .refl
  trans := .prepend
  listens {world _ state} bus _ present :=
    have taken : Holds nothing world { world with bus } := .of_instances rfl rfl
    taken.prepend (.putInstance present (Cluster.standing_applyDeliveries state _)
      (ages_applyDeliveries state _))
  sends {world _ _} present :=
    have handed (delivered : Delivered) : Holds nothing world { world with delivered } :=
      .of_instances rfl rfl
    (handed _).prepend (.putInstance present rfl (.refl _))

/-- Time passes, and background work goes on. -/
theorem continues_advance (world : World) (milliseconds : Nat) :
    Continues nothing world (world.advance milliseconds) :=
  have passed : Continues nothing world { world with clock := world.clock + milliseconds } :=
    .of_instances (Nat.le_add_right _ _) rfl
  passed.prepend (.of_holds (Holds.keptInBackground.settle _))

/-- A request adds the entry that it sets, in any weather. -/
theorem continues_handle (world : World) (place : Nat) (request : Request) :
    Continues (SetBy request world.clock place) world (world.handle place request).2 := by
  rcases holds_or_hangs_handle world place request with holds | ⟨_, milliseconds, late⟩
  · exact .of_holds holds
  · rw [late]
    have continues := continues_advance world milliseconds
    exact {
      clock := continues.clock
      services := continues.services
      entries := fun place cacheKey entry held =>
        (continues.entries place cacheKey entry held).imp_right False.elim }

/-! ## Turning backends -/

/-- The backends of an instance are as they are told from now on. -/
def turn (world : World) (place : Nat) (backends : Backends) : World :=
  world.modifyInstance place fun state => { state with backends }

theorem continues_turn (world : World) (place : Nat) (backends : Backends) :
    Continues nothing world (world.turn place backends) where
  clock := Nat.le_refl _
  services other state present := by
    by_cases here : other = place
    · subst here
      exact ⟨_, present_modifyInstance present _, rfl⟩
    · exact ⟨state, (modifyInstance_other here).trans present, rfl⟩
  entries := .modifyInstance world place fun _ _ entry held => .inl ⟨entry, held, rfl, rfl⟩

/-! ## Operations -/

/-- Answer a request of an instance whose backends turn with each of its requests. -/
def handleIn
    (weather : Nat → Backends)
    (place : Nat)
    (request : Request)
    (state : World × Nat) :
    request.Reply × (World × Nat) :=
  let (reply, later) := (state.1.turn place (weather state.2)).handle place request
  (reply, later, state.2 + 1)

/-- Run an operation of an instance whose backends turn with each of its requests. -/
def performIn
    (world : World)
    (weather : Nat → Backends)
    (place : Nat)
    (operation : Operation α) :
    Except ServiceError α × World :=
  let (outcome, later, _) := operation.run.run (handleIn weather place) (world, 0)
  (outcome, later)

end World

/-- In any weather, a world that keeps its side of the terms runs an operation to its end. -/
theorem Operation.Abides.performIn
    {terms : Terms}
    {ends : Except ServiceError α → Prop}
    {operation : Operation α}
    {weather : Nat → Backends}
    {place : Nat}
    {world : World}
    (abides : operation.Abides terms ends)
    (holds : World → Prop)
    (serves : ∀ request later count, holds later → terms.asks request →
      let answered := (later.turn place (weather count)).handle place request
      terms.gives request answered.1 ∧ holds answered.2)
    (began : holds world) :
    ends (world.performIn weather place operation).1 ∧
      holds (world.performIn weather place operation).2 := by
  have serving (request : Request) (state : World × Nat) (still : holds state.1)
      (asks : terms.asks request) :
      terms.gives request (World.handleIn weather place request state).1 ∧
        holds (World.handleIn weather place request state).2.1 :=
    serves request state.1 state.2 still asks
  have ran (state : World × Nat) (still : holds state.1) :=
    Program.Abides.run abides serving still
  exact ran (world, 0) began

end Switchboard
