import Switchboard.Deployment.Settings
import Switchboard.Proofs.Cache

namespace Switchboard.World

/-!
# Work in the background

Time that passes, listeners that drop entries and sinks that send what waits leave the
rows and the health of all backends alone, and the caches only lose texts.
-/

/-- The text that the cache of an instance holds for a key, expired or not. -/
def held (world : World) (place : Nat) (cacheKey : String) : Option String :=
  world.instances[place]?.bind fun state => state.cache.text? cacheKey

theorem held_of_present {world : World} {place : Nat} {state : Instance}
    (present : world.instances[place]? = some state) (cacheKey : String) :
    world.held place cacheKey = state.cache.text? cacheKey := by
  unfold held
  rw [present]
  rfl

/-- A text that is held after an instance changed was held before, or the change brought it. -/
theorem held_or_changed {world : World} {place other : Nat} {change : Instance → Instance}
    {cacheKey text : String}
    (kept : (world.modifyInstance place change).held other cacheKey = some text) :
    world.held other cacheKey = some text ∨
      place = other ∧ ∃ state, world.instances[other]? = some state ∧
        (change state).cache.text? cacheKey = some text := by
  obtain ⟨changed, present, holds⟩ := Option.bind_eq_some_iff.mp kept
  simp only [modifyInstance, List.getElem?_modify] at present
  obtain ⟨state, wasPresent, isChanged⟩ := Option.map_eq_some_iff.mp present
  split at isChanged
  · next here =>
      subst isChanged
      exact .inr ⟨here, state, wasPresent, holds⟩
  · subst isChanged
    exact .inl ((held_of_present wasPresent cacheKey).trans holds)

/-- The rows and the health of all backends are the same, and no cache has a new text. -/
structure SameStores (before after : World) : Prop where
  database : after.database = before.database
  backends : ∀ place : Nat,
    after.instances[place]?.map Instance.backends = before.instances[place]?.map Instance.backends
  losing : ∀ place cacheKey text,
    after.held place cacheKey = some text → before.held place cacheKey = some text

namespace SameStores

theorem of_instances {before after : World}
    (database : after.database = before.database)
    (instances : after.instances = before.instances) :
    SameStores before after where
  database := database
  backends place := by rw [instances]
  losing place cacheKey text kept := by
    unfold held at kept ⊢
    rwa [instances] at kept

theorem refl (world : World) : SameStores world world :=
  of_instances rfl rfl

theorem trans {first second third : World}
    (before : SameStores first second)
    (after : SameStores second third) :
    SameStores first third where
  database := after.database.trans before.database
  backends place := (after.backends place).trans (before.backends place)
  losing place cacheKey text kept :=
    before.losing place cacheKey text (after.losing place cacheKey text kept)

/-- An instance that stays the same but for what its cache loses. -/
theorem modifyInstance (world : World) (place : Nat) (change : Instance → Instance)
    (backends : ∀ state, (change state).backends = state.backends)
    (losing : ∀ state, Cache.Loses state.cache (change state).cache) :
    SameStores world (world.modifyInstance place change) where
  database := rfl
  backends := map_modifyInstance backends
  losing other cacheKey text kept := by
    rcases held_or_changed kept with old | ⟨_, state, present, changed⟩
    · exact old
    · rw [held_of_present present]
      exact losing state cacheKey text changed

/-- An instance in whose place one is put that is the same but for what its cache lost. -/
theorem putInstance {world : World} {place : Nat} (state : Instance) {changed : Instance}
    (present : world.instances[place]? = some state)
    (backends : changed.backends = state.backends)
    (losing : Cache.Loses state.cache changed.cache) :
    SameStores world (world.putInstance place changed) := by
  refine {
    database := rfl
    backends := map_putInstance present backends
    losing := ?_ }
  intro other cacheKey text kept
  by_cases here : other = place
  · subst here
    rw [held_of_present (present_putInstance present changed)] at kept
    rw [held_of_present present]
    exact losing cacheKey text kept
  · rwa [held, putInstance_other here] at kept

end SameStores

/--
A relation that background work keeps: neither a listener that takes what waits for it nor the
loop of a sink that sends what waits leads out of it.
-/
structure KeptInBackground (related : World → World → Prop) : Prop where
  refl : ∀ world, related world world
  trans : ∀ {first second third : World},
    related first second → related second third → related first third
  listens : ∀ {world : World} {place : Nat} {state : Instance} (bus : Bus)
    (deliveries : List Delivery), world.instances[place]? = some state →
      related world ({ world with bus }.putInstance place (state.applyDeliveries deliveries))
  sends : ∀ {world : World} {place : Nat} {state : Instance},
    world.instances[place]? = some state →
      let settled := state.sink.settle world.clock ⟨world.delivered, state.metrics⟩
      related world ({ world with delivered := settled.2.delivered }.putInstance place
        { state with sink := settled.1, metrics := settled.2.metrics })

namespace KeptInBackground

variable {related : World → World → Prop} (kept : KeptInBackground related)

include kept

theorem drainListener (world : World) (place : Nat) :
    related world (world.drainListener place) := by
  unfold World.drainListener
  split
  · exact kept.refl world
  · next state present =>
      split
      · exact kept.refl world
      · next receiver _ => exact kept.listens _ _ present

theorem settleSink (world : World) (place : Nat) : related world (world.settleSink place) := by
  unfold World.settleSink
  split
  · exact kept.refl world
  · next state present => exact kept.sends present

/-- What the work in each place keeps, the work in all of them does. -/
private theorem foldl {work : World → Nat → World}
    (keeps : ∀ world place, related world (work world place))
    (places : List Nat)
    (world : World) :
    related world (places.foldl work world) := by
  induction places generalizing world with
  | nil => exact kept.refl world
  | cons place rest inductionHypothesis =>
      exact kept.trans (keeps world place) (inductionHypothesis (work world place))

/-- First all listeners take their deliveries, then all sinks send. -/
theorem settle (world : World) : related world world.settle :=
  kept.trans (kept.foldl kept.drainListener _ _) (kept.foldl kept.settleSink _ _)

end KeptInBackground

/-- An instance is where its backends are. -/
theorem present_of_backends {before after : World} {place : Nat} {state : Instance}
    (same :
      after.instances[place]?.map Instance.backends =
        before.instances[place]?.map Instance.backends)
    (present : before.instances[place]? = some state) :
    ∃ changed, after.instances[place]? = some changed ∧ changed.backends = state.backends := by
  rw [present, Option.map_some] at same
  exact Option.map_eq_some_iff.mp same

/-- Deliveries only drop entries. -/
theorem ages_applyDeliveries (state : Instance) (deliveries : List Delivery) :
    Cache.Ages state.cache (state.applyDeliveries deliveries).cache := by
  have applied (cache : Cache) :
      Cache.Ages cache (deliveries.foldl Cache.applyDelivery cache) := by
    induction deliveries generalizing cache with
    | nil => exact .refl cache
    | cons delivery rest inductionHypothesis =>
        refine Cache.Ages.trans ?_ (inductionHypothesis (cache.applyDelivery delivery))
        cases delivery with
        | event event => exact cache.ages_erase event.cacheKey
        | missed count => exact .refl cache
        | nothing => exact .refl cache
        | closed => exact .refl cache
  unfold Instance.applyDeliveries
  split
  · exact applied state.cache
  · exact .refl state.cache

theorem loses_applyDeliveries (state : Instance) (deliveries : List Delivery) :
    Cache.Loses state.cache (state.applyDeliveries deliveries).cache :=
  (ages_applyDeliveries state deliveries).loses

theorem backends_applyDeliveries (state : Instance) (deliveries : List Delivery) :
    (state.applyDeliveries deliveries).backends = state.backends := by
  unfold Instance.applyDeliveries
  split
  · rfl
  · rfl

/-- Background work changes neither rows nor backends. -/
theorem SameStores.keptInBackground : KeptInBackground SameStores where
  refl := .refl
  trans := .trans
  listens {world _ state} bus _ present :=
    have taken : SameStores world { world with bus } := .of_instances rfl rfl
    taken.trans (.putInstance state present (backends_applyDeliveries state _)
      (loses_applyDeliveries state _))
  sends {world _ state} present :=
    have handed (delivered : Delivered) : SameStores world { world with delivered } :=
      .of_instances rfl rfl
    (handed _).trans (.putInstance state present rfl (.refl _))

/-- Time passes over the rows. -/
theorem sameStores_advance (world : World) (milliseconds : Nat) :
    SameStores world (world.advance milliseconds) :=
  have ticked : SameStores world { world with clock := world.clock + milliseconds } :=
    .of_instances rfl rfl
  ticked.trans (SameStores.keptInBackground.settle _)

/-- A sink that is shut down changes neither rows nor backends. -/
theorem sameStores_shutdown (world : World) (place : Nat) :
    SameStores world (world.shutdown place) :=
  have stopped : SameStores world (world.modifyInstance place fun state =>
      { state with sink := state.sink.shutdown }) :=
    .modifyInstance world place _ (fun _ => rfl) fun state => .refl state.cache
  stopped.trans (SameStores.keptInBackground.settle _)

end Switchboard.World
