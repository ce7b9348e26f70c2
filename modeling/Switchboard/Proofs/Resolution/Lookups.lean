import Switchboard.Proofs.CacheKeys
import Switchboard.Proofs.Layer.Inquiries

namespace Switchboard

/-!
# What a resolution looks at

A resolution looks at the cache entries of the scopes of its tiers and of its flag, and at
nothing else that the cache holds.  No other key of an environment has one of these entries.
-/

/-- The requests of which a resolution consists, about the entries of some keys of the cache. -/
def Request.IsAbout (cacheKeys : List String) : Request → Prop
  | .call (.cacheGet cacheKey) => cacheKey ∈ cacheKeys
  | .call (.cacheSet cacheKey _ _) => cacheKey ∈ cacheKeys
  | .call (.cacheDelete cacheKey) => cacheKey ∈ cacheKeys
  | .call (.readFlag ..) => True
  | .call (.findOverride ..) => True
  | .readClock => True
  | .count .. => True
  | _ => False

/-- Requests about some entries, of a clock that stands still. -/
def Terms.about (now : Instant) (cacheKeys : List String) : Terms where
  asks := Request.IsAbout cacheKeys
  gives
    | .readClock, clock => clock = now
    | _, _ => True

/-- Answer as before, but for a clock that stands still. -/
def stopped (now : Instant) (handler : (request : Request) → State → request.Reply × State) :
    (request : Request) → State → request.Reply × State
  | .readClock, state => (now, state)
  | request, state => handler request state

namespace Resolver

variable {environment key otherKey cacheKey : String} {tenantId userId : Option String}
variable {context : Context} {now : Instant}

/-- The keys of the cache whose entries a resolution may look at. -/
def tierKeys (environment key : String) (tenantId userId : Option String) : List String :=
  flagCacheKey environment key ::
    (tierScopes environment key tenantId userId).map overrideCacheKey

theorem flagCacheKey_mem_tierKeys :
    flagCacheKey environment key ∈ tierKeys environment key tenantId userId :=
  List.mem_cons_self

theorem overrideCacheKey_mem_tierKeys {scope : Scope}
    (member : scope ∈ tierScopes environment key tenantId userId) :
    overrideCacheKey scope ∈ tierKeys environment key tenantId userId :=
  List.mem_cons_of_mem _ (List.mem_map_of_mem member)

/-- The scopes of the tiers have the names of the resolution. -/
theorem hasValidNames_of_mem_tierScopes {scope : Scope}
    (valid : ValidNames environment key)
    (member : scope ∈ tierScopes environment key tenantId userId) :
    scope.HasValidNames := by
  obtain ⟨rfl, rfl⟩ := names_of_mem_tierScopes member
  exact valid

/-- The flag of an entry that a resolution looks at is its own. -/
theorem key_of_flagCacheKey_mem {otherEnvironment : String}
    (valid : ValidNames otherEnvironment otherKey)
    (member : flagCacheKey otherEnvironment otherKey ∈
      tierKeys environment key tenantId userId) :
    otherEnvironment = environment ∧ otherKey = key := by
  rcases List.mem_cons.mp member with isFlag | isOverride
  · obtain ⟨rfl, rfl⟩ := (flagCacheKey_inj valid).mp isFlag.symm
    exact ⟨rfl, rfl⟩
  · obtain ⟨scope, _, same⟩ := List.mem_map.mp isOverride
    exact absurd same.symm (flagCacheKey_ne_overrideCacheKey _ _ scope)

/-- The scope of an entry that a resolution looks at is one of its tiers. -/
theorem scope_of_overrideCacheKey_mem {scope : Scope}
    (valid : ValidNames environment key)
    (named : scope.HasValidNames)
    (member : overrideCacheKey scope ∈ tierKeys environment key tenantId userId) :
    scope ∈ tierScopes environment key tenantId userId := by
  rcases List.mem_cons.mp member with isFlag | isOverride
  · exact absurd isFlag.symm (flagCacheKey_ne_overrideCacheKey environment key scope)
  · obtain ⟨other, isTier, same⟩ := List.mem_map.mp isOverride
    have sameScope :=
      (overrideCacheKey_inj (hasValidNames_of_mem_tierScopes valid isTier) named).mp same
    exact sameScope ▸ isTier

/-- Two keys of an environment have no entry in common. -/
theorem not_mem_tierKeys_of_ne
    (valid : ValidNames environment key)
    (otherValid : ValidNames environment otherKey)
    (different : otherKey ≠ key)
    (member : cacheKey ∈ tierKeys environment otherKey tenantId userId) :
    cacheKey ∉ tierKeys environment key tenantId userId := by
  intro shared
  rcases List.mem_cons.mp member with rfl | isOverride
  · exact different (key_of_flagCacheKey_mem otherValid shared).2
  · obtain ⟨scope, isTier, rfl⟩ := List.mem_map.mp isOverride
    have tier := scope_of_overrideCacheKey_mem valid
      (hasValidNames_of_mem_tierScopes otherValid isTier) shared
    exact different
      ((names_of_mem_tierScopes isTier).2.symm.trans (names_of_mem_tierScopes tier).2)

/-- Whatever is replied, a resolution asks for nothing but the entries of its tiers. -/
theorem abides_resolve_about (resolver : Resolver) (environment key : String)
    (tenantId userId : Option String) (context : Context) (now : Instant) :
    (resolver.resolve environment key tenantId userId context).Abides
      (.about now (tierKeys environment key tenantId userId)) fun _ => True := by
  have lets {cacheKey : String} (member : cacheKey ∈ tierKeys environment key tenantId userId) :
      (Terms.about now (tierKeys environment key tenantId userId)).LetsLookUp cacheKey :=
    Terms.letsLookUp member member fun _ _ => trivial
  have overrides (scope : Scope) (isTier : scope ∈ tierScopes environment key tenantId userId) :
      (resolver.layer.getOverride scope).Abides
        (.about now (tierKeys environment key tenantId userId)) fun _ => True := by
    have member := overrideCacheKey_mem_tierKeys isTier
    exact Layer.abides_getOverride trivial fun clock _ =>
      Layer.abides_getOverrideAt_of_lookUp (lets member) trivial (fun _ _ _ _ => trivial)
        (fun _ _ => trivial) fun _ _ => member
  have flags : (resolver.layer.getFlag environment key).Abides
      (.about now (tierKeys environment key tenantId userId)) fun _ => True :=
    Layer.abides_getFlag_of_lookUp (lets flagCacheKey_mem_tierKeys) trivial
      (fun _ _ _ _ => trivial) (fun _ _ => trivial) fun _ _ => flagCacheKey_mem_tierKeys
  have clocks (clock : Instant)
      (isNow : (Terms.about now (tierKeys environment key tenantId userId)).gives .readClock
        clock) :
      context.instantAt clock = context.instantAt now := by
    obtain rfl : clock = now := isNow
    rfl
  exact abides_resolve trivial (fun _ _ => trivial) overrides flags clocks fun _ _ => trivial

variable {State : Type} {handler : (request : Request) → State → request.Reply × State}

/-- An instant that is pinned makes no difference where the clock shows no other. -/
theorem perform_resolve_pinned (resolver : Resolver) (environment key : String)
    (tenantId userId : Option String) (context : Context)
    (stands : ∀ state, (handler .readClock state).1 = now) (state : State) :
    Operation.perform handler
        (resolver.resolve environment key tenantId userId (context.pinned now)) state =
      Operation.perform handler
        (resolver.resolve environment key tenantId userId context) state := by
  have judged (flag? : Option Flag) (state : State) :
      resolveFlag flag? (context.pinned now) (handler .readClock state).1 =
        resolveFlag flag? context (handler .readClock state).1 := by
    rw [stands]
    exact resolveFlag_pinned context now now flag?
  have decided : Operation.perform handler
        (resolver.decide environment key tenantId userId (context.pinned now)) state =
      Operation.perform handler
        (resolver.decide environment key tenantId userId context) state := by
    unfold decide
    refine Operation.perform_bind_congr handler fun user? state => ?_
    cases user? with
    | some found => rfl
    | none =>
        refine Operation.perform_bind_congr handler fun tenant? state => ?_
        cases tenant? with
        | some found => rfl
        | none =>
            refine Operation.perform_bind_congr handler fun flag? state => ?_
            exact congrArg (fun resolution => (Except.ok resolution, (handler .readClock state).2))
              (judged flag? state)
  unfold resolve
  rw [Operation.perform_bind, Operation.perform_bind, decided]

end Resolver

end Switchboard
