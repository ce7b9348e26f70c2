import Switchboard.Proofs.Deployment.FailedWrites
import Switchboard.Proofs.Layer.Inquiries

namespace Switchboard.Patching

open Cluster (IsUp)

/-!
# Reads that find nothing

A read of a scope that finds no override fills no cache.  It may drop the entry of the scope, but
whatever else was cached is given to later readers as if nobody had read.
-/

/-- Of other scopes later readers are given the same, and of this one nothing that is new. -/
structure Overlooks (place : Nat) (scope : Scope) (before after : World) : Prop where
  database : after.database = before.database
  bus : after.bus = before.bus
  losing : ∀ cacheKey text, after.held place cacheKey = some text →
    before.held place cacheKey = some text
  gives : ∀ cacheKey, cacheKey ≠ overrideCacheKey scope → ∀ milliseconds now,
    (after.passed milliseconds now).given place cacheKey =
      (before.passed milliseconds now).given place cacheKey

variable {place : Nat} {scope : Scope} {world : World} {state : Instance} {now : Instant}

theorem Overlooks.refl (world : World) : Overlooks place scope world world :=
  ⟨rfl, rfl, fun _ _ kept => kept, fun _ _ _ _ => rfl⟩

theorem Overlooks.trans {first second third : World}
    (earlier : Overlooks place scope first second)
    (later : Overlooks place scope second third) :
    Overlooks place scope first third where
  database := later.database.trans earlier.database
  bus := later.bus.trans earlier.bus
  losing cacheKey text kept := earlier.losing cacheKey text (later.losing cacheKey text kept)
  gives cacheKey other milliseconds now :=
    (later.gives cacheKey other milliseconds now).trans
      (earlier.gives cacheKey other milliseconds now)

/-- What is asked where an entry is looked up or dropped. -/
def lookingUp (scope : Scope) : Terms where
  asks request := request.LooksUp (overrideCacheKey scope)
  gives _ _ := True

private theorem gives_modifyInstance {change : Instance → Instance} {cacheKey : String}
    (milliseconds : Nat) (now : Instant)
    (same : ∀ state, ((change state).cache.get cacheKey (world.clock + milliseconds)).1 =
      (state.cache.get cacheKey (world.clock + milliseconds)).1) :
    ((world.modifyInstance place change).passed milliseconds now).given place cacheKey =
      (world.passed milliseconds now).given place cacheKey := by
  show ((world.passed milliseconds now).modifyInstance place change).given place cacheKey = _
  exact World.given_modifyInstance same place

/-- None of these requests takes anything from later readers of other keys. -/
private theorem overlooks_handle (present : world.instances[place]? = some state)
    (backends : state.backends = {})
    {request : Request}
    (asks : (lookingUp scope).asks request) :
    Overlooks place scope world (world.handle place request).2 := by
  have losing (setsNothing : ∀ cacheKey text lifetime,
      request ≠ .call (.cacheSet cacheKey text lifetime)) (cacheKey text : String)
      (kept : (world.handle place request).2.held place cacheKey = some text) :
      world.held place cacheKey = some text := by
    rcases (World.keepsCaches_handle world place request).held place cacheKey text kept with
      old | ⟨_, lifetime, sets⟩
    · exact old
    · exact absurd sets (setsNothing cacheKey text lifetime)
  cases request with
  | call asked =>
      cases asked with
      | cacheGet cacheKey =>
          have looked := World.handle_cacheGet present (congrArg Backends.cache backends) cacheKey
          have lost := losing fun _ _ _ sets => by cases sets
          rw [looked] at lost ⊢
          refine ⟨rfl, rfl, lost, fun other _ milliseconds later => ?_⟩
          have inRange : place < world.instances.length := (List.getElem?_eq_some_iff.mp present).1
          simp only [World.given, World.passed, World.putInstance, List.getElem?_set, inRange,
            ↓reduceIte, present, Option.bind_some]
          exact Cache.given_get state.cache cacheKey other (Nat.le_add_right _ _)
      | cacheDelete cacheKey =>
          have dropped :=
            World.handle_cacheDelete present (congrArg Backends.cache backends) cacheKey
          have lost := losing fun _ _ _ sets => by cases sets
          obtain rfl : cacheKey = overrideCacheKey scope := asks
          rw [dropped] at lost ⊢
          refine ⟨rfl, rfl, lost, fun other different milliseconds later => ?_⟩
          exact gives_modifyInstance milliseconds later fun state =>
            Cache.given_erase_other state.cache different _
      | _ => cases asks
  | count counter amount =>
      have lost := losing fun _ _ _ sets => by cases sets
      rw [World.handle_count present] at lost ⊢
      exact ⟨rfl, rfl, lost, fun other _ milliseconds later =>
        gives_modifyInstance milliseconds later fun _ => rfl⟩
  | _ => cases asks

/-- Whatever only looks one entry up takes nothing from later readers of others. -/
private theorem overlooks_perform (present : world.instances[place]? = some state)
    (backends : state.backends = {})
    {operation : Operation α}
    (abides : operation.Abides (lookingUp scope) fun _ => True) :
    Overlooks place scope world (world.perform place operation).2 := by
  have serves (request : Request) (between : World)
      (keeps : IsUp place between ∧ Overlooks place scope world between)
      (asks : (lookingUp scope).asks request) :
      (lookingUp scope).gives request (between.handle place request).1 ∧
        IsUp place (between.handle place request).2 ∧
          Overlooks place scope world (between.handle place request).2 := by
    obtain ⟨up, overlooks⟩ := keeps
    obtain ⟨changed, changedPresent, stillBackends⟩ := id up
    exact ⟨trivial, Cluster.isUp_handle up request,
      overlooks.trans (overlooks_handle changedPresent stillBackends asks)⟩
  exact (abides.run serves ⟨⟨state, present, backends⟩, .refl world⟩).2.2

private theorem letsLookUp (scope : Scope) :
    (lookingUp scope).LetsLookUp (overrideCacheKey scope) :=
  fun _ looks => looks

/-- What was cached where nothing is in force has expired. -/
theorem not_isActive_of_absent {value : OverrideValue}
    (cached : world.cachedOverride place scope = some value)
    (absent : world.overrideAt place scope now = .ok none) :
    ¬value.isActive now = true := by
  intro active
  unfold World.overrideAt at absent
  rw [cached] at absent
  simp only [active, if_true] at absent
  cases absent

/-- A read at an instant that finds nothing leaves what later readers are given of others. -/
private theorem overlooks_getOverrideAt (present : world.instances[place]? = some state)
    (backends : state.backends = {})
    (absent : world.overrideAt place scope now = .ok none)
    (layer : Layer) :
    Overlooks place scope world
      (Operation.perform (World.handle place) (layer.getOverrideAt scope now) world).2 := by
  obtain ⟨looked, lookup, quiet⟩ :=
    World.perform_cached present backends OverrideValue .override (overrideCacheKey scope)
  have looks : Overlooks place scope world looked := by
    have abides : (Layer.cached OverrideValue .override (overrideCacheKey scope)).Abides
        (lookingUp scope) fun _ => True :=
      Layer.abides_cached (letsLookUp scope) (fun _ _ _ _ => trivial) trivial
    have overlooks := overlooks_perform present backends abides
    rwa [show (world.perform place _).2 = looked from congrArg Prod.snd lookup] at overlooks
  obtain ⟨changed, changedPresent, standing⟩ := World.present_of_holds quiet.holds present
  have stillBackends : changed.backends = {} :=
    (congrArg Cluster.Standing.backends standing).trans backends
  have gives : Operation.perform (World.handle place)
      (Layer.cached OverrideValue .override (overrideCacheKey scope)) world =
        (.ok (world.cachedOverride place scope), looked) :=
    lookup
  unfold Layer.getOverrideAt
  cases cached : world.cachedOverride place scope with
  | some value =>
      have expired := not_isActive_of_absent cached absent
      have evicts := overlooks_perform changedPresent stillBackends
        (Layer.abides_evict (letsLookUp scope) trivial)
      obtain ⟨dropped, drops, _⟩ :=
        World.perform_evict changedPresent stillBackends (overrideCacheKey scope)
      rw [show (looked.perform place _).2 = dropped from congrArg Prod.snd drops] at evicts
      rw [cached] at gives
      rw [Operation.perform_bind_ok _ _ gives]
      simp only [expired, if_false, Bool.false_eq_true]
      rw [Operation.perform_bind_ok _ _ drops]
      exact looks.trans evicts
  | none =>
      have asked := World.handle_findOverride changedPresent
        (congrArg Backends.overrides stillBackends) scope now
      have finds := World.perform_call_of_answer (.findOverride scope now) _
        (congrArg Prod.fst asked)
      have nothing : world.database.overrides.find scope now = .ok none := by
        unfold World.overrideAt at absent
        rw [cached] at absent
        exact absent
      rw [asked, quiet.database, nothing] at finds
      rw [cached] at gives
      rw [Operation.perform_bind_ok _ _ gives, Operation.perform_bind_ok _ _ finds]
      exact looks

/-- A read that finds nothing leaves what later readers are given of others. -/
theorem overlooks_getOverride (present : world.instances[place]? = some state)
    (backends : state.backends = {})
    (absent : world.overrideAt place scope world.calendar = .ok none)
    (layer : Layer) :
    Overlooks place scope world (world.perform place (layer.getOverride scope)).2 := by
  have tick : Overlooks place scope world { world with calendar := world.calendar.next } :=
    ⟨rfl, rfl, fun _ _ kept => kept, fun _ _ _ _ => rfl⟩
  have ticked : ({ world with calendar := world.calendar.next } : World).instances[place]? =
      some state :=
    present
  have performs : world.perform place (layer.getOverride scope) = _ :=
    World.perform_getOverride present layer scope
  rw [performs]
  exact tick.trans (overlooks_getOverrideAt ticked backends absent layer)

end Switchboard.Patching
