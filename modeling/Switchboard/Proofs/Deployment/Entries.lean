import Switchboard.Proofs.Coherence.Members

namespace Switchboard

open Cluster (standing Standing)

/-!
# Entries and their deadlines

No request but the one that sets an entry brings one, and none moves a deadline: what a
cache holds later it held before, until the same instant, unless it was set meanwhile for
a lifetime from now.  No request takes time unless a backend hangs.
-/

namespace World

/-- Everything that any instance depends on works. -/
def IsWorking (world : World) : Prop :=
  ∀ (place : Nat) (state : Instance), world.instances[place]? = some state → state.backends = {}

/-- The entry that the cache of an instance holds for a key, expired or not. -/
def entryAt (world : World) (place : Nat) (cacheKey : String) : Option CacheEntry :=
  world.instances[place]?.bind fun state => state.cache.find? cacheKey

/-- An entry of the earlier world has the text and the deadline of a later one. -/
def HasEntry (world : World) (place : Nat) (cacheKey : String) (entry : CacheEntry) : Prop :=
  ∃ old, world.entryAt place cacheKey = some old ∧ old.value = entry.value ∧
    old.expiresAt = entry.expiresAt

/-- The entries of the caches are old but for those that are added. -/
def AddsOnly (added : Nat → String → CacheEntry → Prop) (before after : World) : Prop :=
  ∀ place cacheKey entry, after.entryAt place cacheKey = some entry →
    before.HasEntry place cacheKey entry ∨ added place cacheKey entry

/-- No time passes, everybody stays who they are, and no more is added. -/
structure Holds
    (added : Nat → String → CacheEntry → Prop)
    (before after : World) : Prop where
  clock : after.clock = before.clock
  standings : ∀ place : Nat,
    after.instances[place]?.map standing = before.instances[place]?.map standing
  entries : AddsOnly added before after

/-- No entry. -/
def nothing (_place : Nat) (_cacheKey : String) (_entry : CacheEntry) : Prop :=
  False

/-- The entry that a request sets. -/
def SetBy (request : Request) (clock place : Nat) (other : Nat) (cacheKey : String)
    (entry : CacheEntry) : Prop :=
  other = place ∧ ∃ lifetime, request = .call (.cacheSet cacheKey entry.value lifetime) ∧
    entry.expiresAt = clock + lifetime

variable {added : Nat → String → CacheEntry → Prop} {before after world : World} {place : Nat}

/-- Nothing can fail where there is nobody. -/
theorem isWorking_of_no_instances (noInstances : world.instances = []) : world.IsWorking := by
  intro place state present
  rw [noInstances, List.getElem?_nil] at present
  cases present

theorem IsWorking.of_standings (working : before.IsWorking)
    (standings : ∀ place : Nat,
      after.instances[place]?.map standing = before.instances[place]?.map standing) :
    after.IsWorking := by
  intro place state present
  have same := standings place
  rw [present, Option.map_some] at same
  obtain ⟨old, oldPresent, oldStanding⟩ := Option.map_eq_some_iff.mp same.symm
  exact (congrArg Standing.backends oldStanding).symm.trans (working place old oldPresent)

namespace AddsOnly

theorem of_instances (same : after.instances = before.instances) :
    AddsOnly added before after := by
  intro place cacheKey entry held
  unfold entryAt at held
  rw [same] at held
  exact .inl ⟨entry, held, rfl, rfl⟩

/-- Where nothing is added first, what is added is what is added then. -/
theorem prepend {first second third : World}
    (earlier : AddsOnly nothing first second)
    (later : AddsOnly added second third) :
    AddsOnly added first third := by
  intro place cacheKey entry held
  rcases later place cacheKey entry held with ⟨middle, middleHeld, value, deadline⟩ | isNew
  · rcases earlier place cacheKey middle middleHeld with
      ⟨old, oldHeld, oldValue, oldDeadline⟩ | impossible
    · exact .inl ⟨old, oldHeld, oldValue.trans value, oldDeadline.trans deadline⟩
    · exact impossible.elim
  · exact .inr isNew

/-- An instance changes its cache. -/
theorem modifyInstance (world : World) (place : Nat) {change : Instance → Instance}
    (entries : ∀ state cacheKey entry, (change state).cache.find? cacheKey = some entry →
      (∃ old, state.cache.find? cacheKey = some old ∧ old.value = entry.value ∧
        old.expiresAt = entry.expiresAt) ∨ added place cacheKey entry) :
    AddsOnly added world (world.modifyInstance place change) := by
  intro other cacheKey entry held
  simp only [entryAt, HasEntry, World.modifyInstance, List.getElem?_modify] at held ⊢
  cases present : world.instances[other]? with
  | none =>
      rw [present] at held
      cases held
  | some state =>
      rw [present] at held
      simp only [Option.map_eq_map, Option.map_some, Option.bind_some] at held ⊢
      split at held
      · rename_i here
        subst here
        exact entries state cacheKey entry held
      · exact .inl ⟨entry, held, rfl, rfl⟩

/-- An instance is put in the place of one whose cache was younger. -/
theorem putInstance {state changed : Instance}
    (present : world.instances[place]? = some state)
    (ages : Cache.Ages state.cache changed.cache) :
    AddsOnly added world (world.putInstance place changed) := by
  intro other cacheKey entry held
  have inRange : place < world.instances.length := (List.getElem?_eq_some_iff.mp present).1
  simp only [entryAt, HasEntry, World.putInstance, List.getElem?_set, inRange, ↓reduceIte]
    at held ⊢
  by_cases here : place = other
  · subst here
    simp only [↓reduceIte, Option.bind_some] at held
    rw [present]
    exact .inl (ages cacheKey entry held)
  · simp only [here, ↓reduceIte] at held
    exact .inl ⟨entry, held, rfl, rfl⟩

end AddsOnly

namespace Holds

theorem of_instances (same : after.instances = before.instances)
    (clock : after.clock = before.clock) :
    Holds added before after where
  clock := clock
  standings place := by rw [same]
  entries := .of_instances same

theorem refl (world : World) : Holds added world world :=
  of_instances rfl rfl

/-- Where nothing is added first, what is added is what is added then. -/
theorem prepend {first second third : World}
    (earlier : Holds nothing first second)
    (later : Holds added second third) :
    Holds added first third where
  clock := later.clock.trans earlier.clock
  standings place := (later.standings place).trans (earlier.standings place)
  entries := earlier.entries.prepend later.entries

theorem mono {more : Nat → String → CacheEntry → Prop} (holds : Holds added before after)
    (wider : ∀ place cacheKey entry, added place cacheKey entry → more place cacheKey entry) :
    Holds more before after where
  clock := holds.clock
  standings := holds.standings
  entries place cacheKey entry held :=
    (holds.entries place cacheKey entry held).imp id (wider place cacheKey entry)

/-- What is added under some keys only is added under those keys in two steps. -/
theorem trans_of_keys {keys : String → Prop} {first second third : World}
    (earlier : Holds (fun _ cacheKey _ => keys cacheKey) first second)
    (later : Holds (fun _ cacheKey _ => keys cacheKey) second third) :
    Holds (fun _ cacheKey _ => keys cacheKey) first third where
  clock := later.clock.trans earlier.clock
  standings place := (later.standings place).trans (earlier.standings place)
  entries place cacheKey entry held := by
    rcases later.entries place cacheKey entry held with
      ⟨middle, middleHeld, value, deadline⟩ | isNew
    · rcases earlier.entries place cacheKey middle middleHeld with
        ⟨old, oldHeld, oldValue, oldDeadline⟩ | isNew
      · exact .inl ⟨old, oldHeld, oldValue.trans value, oldDeadline.trans deadline⟩
      · exact .inr isNew
    · exact .inr isNew

/-- An instance that stays who it is changes its cache. -/
theorem modifyInstance (world : World) (place : Nat) {change : Instance → Instance}
    (same : ∀ state, standing (change state) = standing state)
    (entries : ∀ state cacheKey entry, (change state).cache.find? cacheKey = some entry →
      (∃ old, state.cache.find? cacheKey = some old ∧ old.value = entry.value ∧
        old.expiresAt = entry.expiresAt) ∨ added place cacheKey entry) :
    Holds added world (world.modifyInstance place change) where
  clock := rfl
  standings := map_modifyInstance same
  entries := .modifyInstance world place entries

/-- An instance that stays who it is and whose cache ages. -/
theorem modifyInstance_ages (world : World) (place : Nat) {change : Instance → Instance}
    (same : ∀ state, standing (change state) = standing state)
    (ages : ∀ state, Cache.Ages state.cache (change state).cache) :
    Holds added world (world.modifyInstance place change) :=
  .modifyInstance world place same fun state cacheKey entry held =>
    .inl (ages state cacheKey entry held)

/-- An instance in whose place it is put itself, but for what does not count. -/
theorem putInstance {state changed : Instance}
    (present : world.instances[place]? = some state)
    (same : standing changed = standing state)
    (ages : Cache.Ages state.cache changed.cache) :
    Holds added world (world.putInstance place changed) where
  clock := rfl
  standings := (Cluster.Aside.putInstance present same).standings
  entries := .putInstance present ages

end Holds

/-- What a request does to the caches: what its answer does, or what time does where it hangs. -/
theorem holds_or_hangs_handle (world : World) (place : Nat) (request : Request) :
    Holds (SetBy request world.clock place) world (world.handle place request).2 ∨
      (world.instances[place]?.getD unreachable).backends.Hang ∧
        ∃ milliseconds, (world.handle place request).2 = world.advance milliseconds := by
  have effect := effect_handle world place request
  generalize (world.handle place request).2 = later at effect
  cases effect with
  | hung _ milliseconds hangs => exact .inr ⟨hangs, milliseconds, rfl⟩
  | nothing => exact .inl (.refl world)
  | lookedUp cacheKey state present =>
      exact .inl (.putInstance present rfl (Cache.ages_get _ _ _))
  | cached cacheKey text lifetime =>
      refine .inl (.modifyInstance world place (fun _ => rfl) ?_)
      intro state otherKey entry held
      rcases Cache.find_set held with ⟨rfl, rfl⟩ | old
      · exact .inr ⟨rfl, lifetime, rfl, rfl⟩
      · exact .inl old
  | dropped cacheKey =>
      exact .inl (.modifyInstance_ages world place (fun _ => rfl) fun state => Cache.ages_erase _ _)
  | published topic event => exact .inl (.of_instances rfl rfl)
  | wrote write expected => exact .inl (.of_instances rfl rfl)
  | upserted scope value expiresAt => exact .inl (.of_instances rfl rfl)
  | cleared scope => exact .inl (.of_instances rfl rfl)
  | purged ids now => exact .inl (.of_instances rfl rfl)
  | ticked => exact .inl (.of_instances rfl rfl)
  | counted counter amount =>
      exact .inl (.modifyInstance_ages world place (fun _ => rfl) fun _ => .refl _)
  | observed keys =>
      exact .inl (.modifyInstance_ages world place (fun _ => rfl) fun _ => .refl _)
  | logged records state present =>
      have handed (delivered : Delivered) : Holds nothing world { world with delivered } :=
        .of_instances rfl rfl
      exact .inl ((handed _).prepend (.putInstance present rfl (.refl _)))

/-- An instance whose backends work does not hang. -/
private theorem not_hang_of_backends {state : Instance}
    (present : world.instances[place]? = some state)
    (backends : state.backends = {}) :
    ¬(world.instances[place]?.getD unreachable).backends.Hang := by
  rw [present, Option.getD_some, backends]
  rintro (hangs | hangs | hangs | hangs) <;> cases hangs

/-- While all backends work, whoever answers does not hang. -/
theorem IsWorking.not_hang (working : world.IsWorking) (place : Nat) :
    ¬(world.instances[place]?.getD unreachable).backends.Hang := by
  cases present : world.instances[place]? with
  | none => rintro (hangs | hangs | hangs | hangs) <;> cases hangs
  | some state => exact present ▸ not_hang_of_backends present (working place state present)

/-- What a request does to the caches while the backends of its instance work. -/
theorem holds_handle_of_backends {state : Instance}
    (present : world.instances[place]? = some state)
    (backends : state.backends = {})
    (request : Request) :
    Holds (SetBy request world.clock place) world (world.handle place request).2 := by
  rcases holds_or_hangs_handle world place request with holds | ⟨hangs, _⟩
  · exact holds
  · exact absurd hangs (not_hang_of_backends present backends)

/-- What a request does to the caches while all backends work. -/
theorem holds_handle (working : world.IsWorking) (place : Nat) (request : Request) :
    Holds (SetBy request world.clock place) world (world.handle place request).2 := by
  rcases holds_or_hangs_handle world place request with holds | ⟨hangs, _⟩
  · exact holds
  · exact absurd hangs (working.not_hang place)

end World

end Switchboard
