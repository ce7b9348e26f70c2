import Switchboard.Proofs.Deployment.Effects

namespace Switchboard.World

/-!
# What requests do to caches

Of all requests only one brings a text into a cache, the one that sets it.  No request
changes which backends work.
-/

/-- No cache has a new text but one that the request set, and the same backends work. -/
structure KeepsCaches (place : Nat) (request : Request) (before after : World) : Prop where
  backends : ∀ place : Nat,
    after.instances[place]?.map Instance.backends = before.instances[place]?.map Instance.backends
  held : ∀ other cacheKey text, after.held other cacheKey = some text →
    before.held other cacheKey = some text ∨
      other = place ∧ ∃ lifetime, request = .call (.cacheSet cacheKey text lifetime)

namespace KeepsCaches

variable {place : Nat} {request : Request} {before after world : World}

theorem of_sameStores (same : SameStores before after) :
    KeepsCaches place request before after where
  backends := same.backends
  held other cacheKey text kept := .inl (same.losing other cacheKey text kept)

theorem of_instances (same : after.instances = before.instances) :
    KeepsCaches place request before after where
  backends other := by rw [same]
  held other cacheKey text kept := by
    unfold World.held at kept ⊢
    rw [same] at kept
    exact .inl kept

end KeepsCaches

private theorem keepsCaches_modifyCache_set (world : World) (place : Nat)
    (cacheKey text : String) (lifetime : Nat) :
    KeepsCaches place (.call (.cacheSet cacheKey text lifetime)) world
      (world.modifyCache place fun cache now => cache.set cacheKey text lifetime now) where
  backends := map_modifyInstance fun _ => rfl
  held other otherKey otherText kept := by
    rcases held_or_changed kept with old | ⟨here, state, present, changed⟩
    · exact .inl old
    · by_cases same : otherKey = cacheKey
      · subst same
        simp only [Cache.text_set_self, Option.some.injEq] at changed
        subst changed
        exact .inr ⟨here.symm, lifetime, rfl⟩
      · rw [held_of_present present]
        exact .inl (Cache.text_set_other same changed)

/-- What a request of an instance does to the caches. -/
theorem keepsCaches_handle (world : World) (place : Nat) (request : Request) :
    KeepsCaches place request world (world.handle place request).2 := by
  have effect := effect_handle world place request
  generalize (world.handle place request).2 = later at effect
  cases effect with
  | nothing => exact .of_instances rfl
  | hung _ milliseconds => exact .of_sameStores (sameStores_advance world milliseconds)
  | lookedUp cacheKey state present =>
      exact .of_sameStores (.putInstance state present rfl (Cache.loses_get _ _ _))
  | cached cacheKey text lifetime =>
      exact keepsCaches_modifyCache_set world place cacheKey text lifetime
  | dropped cacheKey =>
      exact .of_sameStores (.modifyInstance world place _ (fun _ => rfl)
        fun state => Cache.loses_erase _ _)
  | published topic event => exact .of_instances rfl
  | wrote write expected => exact .of_instances rfl
  | upserted scope value expiresAt => exact .of_instances rfl
  | cleared scope => exact .of_instances rfl
  | purged ids now => exact .of_instances rfl
  | ticked => exact .of_instances rfl
  | counted counter amount =>
      exact .of_sameStores (.modifyInstance world place _ (fun _ => rfl) fun _ => .refl _)
  | observed keys =>
      exact .of_sameStores (.modifyInstance world place _ (fun _ => rfl) fun _ => .refl _)
  | logged records state present =>
      have handed (delivered : Delivered) : SameStores world { world with delivered } :=
        .of_instances rfl rfl
      exact .of_sameStores ((handed _).trans (.putInstance state present rfl (.refl _)))

end Switchboard.World
