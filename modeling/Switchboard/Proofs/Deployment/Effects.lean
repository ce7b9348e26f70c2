import Switchboard.Proofs.Deployment.Answers

namespace Switchboard

/-!
# What requests do to a deployment

What a request of an instance leads to is said here once, for all that is shown of the world
after it: time passes where a backend hangs, and where it works the answer changes one thing.
-/

/-- One of the backends hangs. -/
def Backends.Hang (backends : Backends) : Prop :=
  backends.cache = .hanging ∨ backends.bus = .hanging ∨ backends.flags = .hanging ∨
    backends.overrides = .hanging

namespace World

/-- What a request of the instance in a place leads to. -/
inductive Effect (world : World) (place : Nat) : Request → World → Prop where
  /-- Nothing is to be changed, or whoever should change it fails. -/
  | nothing (request : Request) : Effect world place request world
  | hung (request : Request) (milliseconds : Nat) :
      (world.instances[place]?.getD unreachable).backends.Hang →
        Effect world place request (world.advance milliseconds)
  | lookedUp (cacheKey : String) (state : Instance) :
      world.instances[place]? = some state →
        Effect world place (.call (.cacheGet cacheKey))
          (world.putInstance place
            { state with cache := (state.cache.get cacheKey world.clock).2 })
  | cached (cacheKey text : String) (lifetime : Nat) :
      Effect world place (.call (.cacheSet cacheKey text lifetime))
        (world.modifyCache place fun cache now => cache.set cacheKey text lifetime now)
  | dropped (cacheKey : String) :
      Effect world place (.call (.cacheDelete cacheKey))
        (world.modifyCache place fun cache _ => cache.erase cacheKey)
  | published (topic : String) (event : Invalidation) :
      Effect world place (.call (.publish topic event)) (world.publish topic event).2
  /-- The calendar moves on also where the write does not apply. -/
  | wrote (write : FlagWrite) (expected : Option Int64) :
      Effect world place (.call (.applyFlagWrite write expected))
        (world.recorded {
          world.database with
          flags := (world.database.flags.apply write expected world.calendar).2 })
  | upserted (scope : Scope) (value : Bool) (expiresAt : Option Instant) :
      Effect world place (.call (.upsertOverride scope value expiresAt))
        (world.upsertOverride scope value expiresAt).2
  | cleared (scope : Scope) :
      Effect world place (.call (.clearOverride scope)) (world.clearOverride scope)
  | purged (ids : List OverrideId) (now : Instant) :
      Effect world place (.purge ids now) (world.purge ids now).2
  | ticked : Effect world place .readClock { world with calendar := world.calendar.next }
  | counted (counter : Counter) (amount : Nat) :
      Effect world place (.count counter amount)
        (world.modifyInstance place fun state =>
          { state with metrics := state.metrics.add counter amount })
  | observed (keys : Nat) :
      Effect world place (.observeBatch keys)
        (world.modifyInstance place fun state =>
          { state with metrics := state.metrics.observeBatch keys })
  | logged (records : List Exposure) (state : Instance) :
      world.instances[place]? = some state →
        Effect world place (.logExposures records) (world.logExposures state place records).2

variable {world : World} {place : Nat} {request : Request}

private theorem effect_through
    {health : Health}
    {timeout : Nat}
    {refusal : ServiceError}
    {answer : World → Except ServiceError α × World}
    (hangs : health = .hanging → (world.instances[place]?.getD unreachable).backends.Hang)
    (effect : Effect world place request (answer world).2) :
    Effect world place request (world.through health timeout refusal answer).2 := by
  cases working : health with
  | failing => exact .nothing request
  | hanging => exact .hung request _ (hangs working)
  | working =>
      rw [through_working rfl]
      exact effect

private theorem effect_getCached (world : World) (place : Nat) (cacheKey : String) :
    Effect world place (.call (.cacheGet cacheKey)) (world.getCached place cacheKey).2 := by
  unfold getCached
  split
  · exact .nothing _
  · next state present => exact .lookedUp cacheKey state present

private theorem effect_call (world : World) (place : Nat) (asked : Call) :
    Effect world place (.call asked) (world.handle place (.call asked)).2 := by
  cases asked with
  | cacheGet cacheKey => exact effect_through .inl (effect_getCached world place cacheKey)
  | cacheSet cacheKey text lifetime => exact effect_through .inl (.cached cacheKey text lifetime)
  | cacheDelete cacheKey => exact effect_through .inl (.dropped cacheKey)
  | publish topic event => exact effect_through (.inr ∘ .inl) (.published topic event)
  | readFlag environment key => exact effect_through (.inr ∘ .inr ∘ .inl) (.nothing _)
  | readFlagVersion environment key => exact effect_through (.inr ∘ .inr ∘ .inl) (.nothing _)
  | applyFlagWrite write expected =>
      refine effect_through (.inr ∘ .inr ∘ .inl) ?_
      rw [applyFlagWrite_snd]
      exact .wrote write expected
  | findOverride scope now => exact effect_through (.inr ∘ .inr ∘ .inr) (.nothing _)
  | upsertOverride scope value expiresAt =>
      exact effect_through (.inr ∘ .inr ∘ .inr) (.upserted scope value expiresAt)
  | clearOverride scope => exact effect_through (.inr ∘ .inr ∘ .inr) (.cleared scope)

/--
Every request has one of these effects.  Where there is no instance in a place, the one that answers
instead is put nowhere.
-/
theorem effect_handle (world : World) (place : Nat) (request : Request) :
    Effect world place request (world.handle place request).2 := by
  cases request with
  | call asked => exact effect_call world place asked
  | listDead now limit =>
      simp only [handle, answer]
      split
      · exact .nothing _
      · exact .nothing _
  | purge ids now =>
      simp only [handle, answer]
      split
      · exact .purged ids now
      · exact .nothing _
  | readClock => exact .ticked
  | count counter amount => exact .counted counter amount
  | observeBatch keys => exact .observed keys
  | logExposures records =>
      unfold handle
      cases present : world.instances[place]? with
      | some state => exact .logged records state present
      | none =>
          have outside : world.instances.length ≤ place := List.getElem?_eq_none_iff.mp present
          have same : (world.answer place unreachable (.logExposures records)).2 = world := by
            simp only [answer, logExposures, putInstance, List.set_eq_of_length_le outside]
            rfl
          rw [Option.getD_none, same]
          exact .nothing _

end World

end Switchboard
