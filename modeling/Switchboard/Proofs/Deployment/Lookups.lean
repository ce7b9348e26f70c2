import Switchboard.Proofs.Deployment.Entries

namespace Switchboard.World

open Cluster (Standing standing)

/-!
# Reads of working instances

What a read of an override gives while the backends of its instance work, as one equation:
the entry that still counts and can be read, judged at the instant of the read, or else what
the store finds.  The only entry that a read adds is one of what the store found, and it
counts for a lifetime from now.
-/

/-- The text that a lookup of an instance gives now. -/
def given (world : World) (place : Nat) (cacheKey : String) : Option String :=
  world.instances[place]?.bind fun state => (state.cache.get cacheKey world.clock).1

/-- What a read of an override finds in the cache of its instance now. -/
def cachedOverride (world : World) (place : Nat) (scope : Scope) : Option OverrideValue :=
  (world.given place (overrideCacheKey scope)).bind Wire.decode?

/-- What a read of an override gives: what its instance has cached, or what the store finds. -/
def overrideAt (world : World) (place : Nat) (scope : Scope) (now : Instant) :
    Except ServiceError (Option OverrideValue) :=
  match world.cachedOverride place scope with
  | some value => .ok (if value.isActive now then some value else none)
  | none => world.database.overrides.find scope now

/-- What is given is an entry that still counts. -/
theorem entry_of_given {world : World} {place : Nat} {cacheKey text : String}
    (given : world.given place cacheKey = some text) :
    ∃ entry, world.entryAt place cacheKey = some entry ∧ entry.value = text ∧
      world.clock < entry.expiresAt := by
  obtain ⟨state, present, got⟩ := Option.bind_eq_some_iff.mp given
  obtain ⟨entry, found, value, live⟩ := Cache.live_of_get got
  exact ⟨entry, Option.bind_eq_some_iff.mpr ⟨state, present, found⟩, value, live⟩

/-- A change after which the readers of an instance are given the same takes nothing from others. -/
theorem given_modifyInstance {world : World} {place : Nat} {change : Instance → Instance}
    {cacheKey : String}
    (same : ∀ state, ((change state).cache.get cacheKey world.clock).1 =
      (state.cache.get cacheKey world.clock).1)
    (reader : Nat) :
    (world.modifyInstance place change).given reader cacheKey = world.given reader cacheKey := by
  by_cases here : reader = place
  · subst here
    cases present : world.instances[reader]? with
    | none => simp [given, modifyInstance, present]
    | some state =>
        have changed := present_modifyInstance present change
        rw [given, given, changed, present]
        exact same state
  · rw [given, modifyInstance_other here, given]
    rfl

/-- A read takes no time, leaves the rows, and adds to the caches no more than is told. -/
structure Looks
    (added : Nat → String → CacheEntry → Prop)
    (before after : World) : Prop where
  holds : Holds added before after
  database : after.database = before.database
  calendar : after.calendar = before.calendar

variable {added : Nat → String → CacheEntry → Prop} {world : World} {place : Nat}

theorem Looks.refl (world : World) : Looks added world world :=
  ⟨.refl world, rfl, rfl⟩

/-- A read that adds nothing may go before another. -/
theorem Looks.trans {first second third : World}
    (earlier : Looks nothing first second)
    (later : Looks added second third) :
    Looks added first third where
  holds := earlier.holds.prepend later.holds
  database := later.database.trans earlier.database
  calendar := later.calendar.trans earlier.calendar

/-- A request that sets nothing and leaves rows and calendar. -/
private theorem looks_of_handle {request : Request} {state : Instance}
    (present : world.instances[place]? = some state)
    (backends : state.backends = {})
    (setsNothing : ∀ cacheKey text lifetime, request ≠ .call (.cacheSet cacheKey text lifetime))
    (database : (world.handle place request).2.database = world.database)
    (calendar : (world.handle place request).2.calendar = world.calendar) :
    Looks nothing world (world.handle place request).2 where
  holds := (holds_handle_of_backends present backends request).mono fun _ cacheKey entry set => by
    obtain ⟨_, lifetime, sets, _⟩ := set
    exact setsNothing cacheKey entry.value lifetime sets
  database := database
  calendar := calendar

/-- An instance stays where it is. -/
theorem present_of_holds {before after : World} {state : Instance}
    (holds : Holds added before after)
    (present : before.instances[place]? = some state) :
    ∃ changed, after.instances[place]? = some changed ∧ standing changed = standing state := by
  have same := holds.standings place
  rw [present, Option.map_some] at same
  exact Option.map_eq_some_iff.mp same

/-- An instance whose backends work stays where it is, and its backends work. -/
private theorem backends_of_holds {before after : World} {state : Instance}
    (holds : Holds added before after)
    (present : before.instances[place]? = some state)
    (backends : state.backends = {}) :
    ∃ changed : Instance, after.instances[place]? = some changed ∧ changed.backends = {} := by
  obtain ⟨changed, changedPresent, same⟩ := present_of_holds holds present
  exact ⟨changed, changedPresent, (congrArg Standing.backends same).trans backends⟩

/-- A call gives what the backend answers. -/
theorem perform_call_of_answer (asked : Call) (answer : Except ServiceError asked.Answer)
    (replied : (world.handle place (.call asked)).1 = .ofExcept answer) :
    Operation.perform (World.handle place) (Operation.call asked) world =
      (answer, (world.handle place (.call asked)).2) := by
  rw [Operation.perform_call]
  generalize world.handle place (.call asked) = handled at replied ⊢
  obtain ⟨reply, next⟩ := handled
  cases replied
  cases answer with
  | ok value => rfl
  | error error => rfl

section Reading

variable {state : Instance} (present : world.instances[place]? = some state)
  (backends : state.backends = {})
include present backends

private theorem looks_count (counter : Counter) (amount : Nat) :
    Looks nothing world (world.handle place (.count counter amount)).2 := by
  refine looks_of_handle present backends (fun _ _ _ sets => by cases sets) ?_ ?_
  · rw [handle_count present]
    rfl
  · rw [handle_count present]
    rfl

/-- Dropping an entry does not fail. -/
theorem perform_evict (cacheKey : String) :
    ∃ later, Operation.perform (World.handle place) (Layer.evict cacheKey) world = (.ok (), later) ∧
      Looks nothing world later := by
  have dropped := handle_cacheDelete present (congrArg Backends.cache backends) cacheKey
  have drops := perform_call_of_answer (.cacheDelete cacheKey) (.ok ())
    (congrArg Prod.fst dropped)
  have attempted := Operation.perform_attempt (World.handle place)
    (Operation.call (.cacheDelete cacheKey)) world
  rw [drops] at attempted
  exact ⟨_, Operation.perform_bind_ok _ _ attempted,
    looks_of_handle present backends (fun _ _ _ sets => by cases sets) (by rw [dropped]; rfl)
      (by rw [dropped]; rfl)⟩

/-- Counting a lookup does not fail. -/
private theorem perform_countLookup (kind : EntryKind) (outcome : LookupOutcome) :
    ∃ later, Operation.perform (World.handle place) (Layer.countLookup kind outcome) world =
        (.ok (), later) ∧
      Looks nothing world later :=
  ⟨_, rfl, looks_count present backends _ _⟩

/-- Asking the cache does not fail and adds nothing. -/
private theorem perform_cacheGet (cacheKey : String) :
    ∃ later, Operation.perform (World.handle place) (Operation.call (.cacheGet cacheKey)) world =
        (.ok (world.given place cacheKey), later) ∧
      Looks nothing world later := by
  have looked := handle_cacheGet present (congrArg Backends.cache backends) cacheKey
  have isGiven : world.given place cacheKey = (state.cache.get cacheKey world.clock).1 := by
    unfold given
    rw [present]
    rfl
  refine ⟨_, perform_call_of_answer (.cacheGet cacheKey) (.ok (world.given place cacheKey)) ?_,
    looks_of_handle present backends (fun _ _ _ sets => by cases sets) (by rw [looked]; rfl)
      (by rw [looked]; rfl)⟩
  rw [looked, isGiven]
  rfl

/-- A lookup gives what can be read of the entry that still counts, and adds nothing. -/
theorem perform_cached (α : Type) [Wire α] (kind : EntryKind) (cacheKey : String) :
    ∃ later, Operation.perform (World.handle place) (Layer.cached α kind cacheKey) world =
        (.ok ((world.given place cacheKey).bind Wire.decode?), later) ∧
      Looks nothing world later := by
  obtain ⟨next, gets, quiet⟩ := perform_cacheGet present backends cacheKey
  obtain ⟨changed, changedPresent, stillWorking⟩ :=
    backends_of_holds quiet.holds present backends
  have attempted := Operation.perform_attempt (World.handle place)
    (Operation.call (.cacheGet cacheKey)) world
  rw [gets] at attempted
  have counts := perform_countLookup changedPresent stillWorking kind
  unfold Layer.cached
  rw [Operation.perform_bind_ok _ _ attempted]
  cases text? : world.given place cacheKey with
  | none =>
      obtain ⟨counted, count, quietCount⟩ := counts .miss
      refine ⟨counted, Operation.perform_bind_ok _ _ count, quiet.trans (quietCount.trans ?_)⟩
      exact (.refl counted)
  | some text =>
      simp only [Option.bind_some]
      cases decoded : Wire.decode? (α := α) text with
      | some value =>
          obtain ⟨counted, count, quietCount⟩ := counts .hit
          refine ⟨counted, ?_, quiet.trans (quietCount.trans (.refl counted))⟩
          exact Operation.perform_bind_ok _ _ count
      | none =>
          obtain ⟨counted, count, quietCount⟩ := counts .error
          obtain ⟨countedState, countedPresent, countedBackends⟩ :=
            backends_of_holds quietCount.holds changedPresent stillWorking
          obtain ⟨evicted, evict, quietEvict⟩ :=
            perform_evict countedPresent countedBackends cacheKey
          refine ⟨evicted, ?_, quiet.trans (quietCount.trans quietEvict)⟩
          rw [Operation.perform_bind_ok _ _ count, Operation.perform_bind_ok _ _ evict]
          rfl

/-- Filling does not fail and adds one entry. -/
theorem perform_populate [Wire α] (layer : Layer) (cacheKey : String) (value : α) :
    ∃ later, Operation.perform (World.handle place) (layer.populate cacheKey value) world =
        (.ok (), later) ∧
      Looks (fun other otherKey entry =>
        other = place ∧ otherKey = cacheKey ∧ entry.value = Wire.encode value ∧
          entry.expiresAt = world.clock + layer.lifetime) world later := by
  have filled := handle_cacheSet present (congrArg Backends.cache backends) cacheKey
    (Wire.encode value) layer.lifetime
  have set := perform_call_of_answer (.cacheSet cacheKey (Wire.encode value) layer.lifetime)
    (.ok ()) (congrArg Prod.fst filled)
  have attempted := Operation.perform_attempt (World.handle place)
    (Operation.call (.cacheSet cacheKey (Wire.encode value) layer.lifetime)) world
  rw [set] at attempted
  refine ⟨_, Operation.perform_bind_ok _ _ attempted, ?_⟩
  refine {
    holds := (holds_handle_of_backends present backends _).mono ?_
    database := by rw [filled]; rfl
    calendar := by rw [filled]; rfl }
  rintro other otherKey entry ⟨here, lifetime, sets, deadline⟩
  obtain ⟨rfl, isText, rfl⟩ :
      cacheKey = otherKey ∧ Wire.encode value = entry.value ∧ layer.lifetime = lifetime := by
    simpa using sets
  exact ⟨here, rfl, isText.symm, deadline⟩

/-- What a read of an override gives, and what it leaves. -/
theorem perform_getOverrideAt (layer : Layer) (scope : Scope) (now : Instant) :
    ∃ later, Operation.perform (World.handle place) (layer.getOverrideAt scope now) world =
        (world.overrideAt place scope now, later) ∧
      Looks (fun other cacheKey entry =>
        other = place ∧ cacheKey = overrideCacheKey scope ∧
          entry.expiresAt = world.clock + layer.lifetime ∧
            ∃ value, world.database.overrides.find scope now = .ok (some value) ∧
              entry.value = Wire.encode value) world later := by
  obtain ⟨looked, lookup, quiet⟩ :=
    perform_cached present backends OverrideValue .override (overrideCacheKey scope)
  obtain ⟨changed, changedPresent, stillWorking⟩ :=
    backends_of_holds quiet.holds present backends
  unfold Layer.getOverrideAt overrideAt
  rw [Operation.perform_bind_ok _ _ lookup]
  change ∃ later, Operation.perform (World.handle place)
    (match world.cachedOverride place scope with
      | some value => _
      | none => _) looked = _ ∧ _
  cases world.cachedOverride place scope with
  | some value =>
      by_cases active : value.isActive now = true
      · refine ⟨looked, ?_, quiet.trans (.refl looked)⟩
        simp only [active, if_true]
        rfl
      · obtain ⟨evicted, evict, quietEvict⟩ :=
          perform_evict changedPresent stillWorking (overrideCacheKey scope)
        refine ⟨evicted, ?_, quiet.trans (quietEvict.trans (.refl evicted))⟩
        simp only [active, Bool.false_eq_true, if_false]
        exact Operation.perform_bind_ok _ _ evict
  | none =>
      have asked := handle_findOverride changedPresent
        (congrArg Backends.overrides stillWorking) scope now
      have finds := perform_call_of_answer (.findOverride scope now) _ (congrArg Prod.fst asked)
      rw [asked, quiet.database] at finds
      simp only
      cases stored : world.database.overrides.find scope now with
      | error error =>
          rw [stored] at finds
          exact ⟨looked, Operation.perform_bind_error _ _ finds,
            quiet.trans (.refl looked)⟩
      | ok value? =>
          rw [stored] at finds
          rw [Operation.perform_bind_ok _ _ finds]
          cases value? with
          | none => exact ⟨looked, rfl, quiet.trans (.refl looked)⟩
          | some value =>
              obtain ⟨filled, populate, fills⟩ :=
                perform_populate changedPresent stillWorking layer (overrideCacheKey scope) value
              refine ⟨filled, ?_, quiet.trans ⟨fills.holds.mono ?_, fills.database,
                fills.calendar⟩⟩
              · simp only
                rw [Operation.perform_bind_ok _ _ populate]
                rfl
              · rintro other otherKey entry ⟨here, isKey, isText, deadline⟩
                rw [quiet.holds.clock] at deadline
                exact ⟨here, isKey, deadline, value, rfl, isText⟩

end Reading

/-- A read of an override asks for the instant first. -/
theorem perform_getOverride {state : Instance} (present : world.instances[place]? = some state)
    (layer : Layer) (scope : Scope) :
    Operation.perform (World.handle place) (layer.getOverride scope) world =
      Operation.perform (World.handle place) (layer.getOverrideAt scope world.calendar)
        { world with calendar := world.calendar.next } := by
  unfold Layer.getOverride
  rw [Operation.perform_bind_ok _ _ (Operation.perform_ask _ _ _)]
  show Operation.perform _ (layer.getOverrideAt scope (world.handle place .readClock).1)
    (world.handle place .readClock).2 = _
  rw [handle_readClock present]

end Switchboard.World
