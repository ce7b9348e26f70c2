import Mathlib.Data.Option.Basic
import Switchboard.Proofs.Layer.Terms
import Switchboard.Proofs.Resolution.Tiers

namespace Switchboard

/-!
# What reads rely on

A read asks the cache, the stores and the clock, and may put into the cache what a store gave
it.  What it ends with is said by the replies alone: a text of the cache that can be read, or
the answer of the store.
-/

/-- The requests of which a read consists, but for the one that fills the cache. -/
def Request.IsInquiry : Request → Prop
  | .call (.cacheGet _) => True
  | .call (.cacheDelete _) => True
  | .call (.readFlag ..) => True
  | .call (.findOverride ..) => True
  | .readClock => True
  | .count .. => True
  | _ => False

/-- Terms under which a program may at least inquire. -/
def Terms.LetsInquire (terms : Terms) : Prop :=
  ∀ request : Request, request.IsInquiry → terms.asks request

/-- The requests of which a lookup of one cache entry consists. -/
def Request.LooksUp (cacheKey : String) : Request → Prop
  | .call (.cacheGet other) => other = cacheKey
  | .call (.cacheDelete other) => other = cacheKey
  | .count .. => True
  | _ => False

/-- Terms under which a program may at least look up one cache entry. -/
def Terms.LetsLookUp (terms : Terms) (cacheKey : String) : Prop :=
  ∀ request : Request, request.LooksUp cacheKey → terms.asks request

/-- A lookup asks for the entry, and may drop it and count. -/
theorem Terms.letsLookUp {terms : Terms} {cacheKey : String}
    (gets : terms.asks (.call (.cacheGet cacheKey)))
    (drops : terms.asks (.call (.cacheDelete cacheKey)))
    (counts : ∀ counter amount, terms.asks (.count counter amount)) :
    terms.LetsLookUp cacheKey := by
  rintro (asked | _ | _ | _ | _ | _ | _) looks
  · cases asked with
    | cacheGet other =>
        obtain rfl : other = cacheKey := looks
        exact gets
    | cacheDelete other =>
        obtain rfl : other = cacheKey := looks
        exact drops
    | _ => cases looks
  · cases looks
  · cases looks
  · cases looks
  · exact counts _ _
  · cases looks
  · cases looks

/-- Who may inquire may look up each entry. -/
theorem Terms.LetsInquire.lookUp {terms : Terms} (lets : terms.LetsInquire) (cacheKey : String) :
    terms.LetsLookUp cacheKey :=
  letsLookUp (lets _ trivial) (lets _ trivial) fun _ _ => lets _ trivial

namespace Layer

variable {terms : Terms}

/-- Dropping an entry does not fail. -/
theorem abides_evict {cacheKey : String} {ends : Except ServiceError Unit → Prop}
    (lets : terms.LetsLookUp cacheKey)
    (ended : ends (.ok ())) :
    (evict cacheKey).Abides terms ends :=
  Operation.abides_bind (Operation.abides_attempt (Operation.abides_call
    (lets _ rfl) (lets _ trivial) fun _ _ => Operation.abides_pure ended))

private theorem abides_countLookup {kind : EntryKind} {outcome : LookupOutcome} {cacheKey : String}
    {ends : Except ServiceError Unit → Prop}
    (lets : terms.LetsLookUp cacheKey)
    (ended : ends (.ok ())) :
    (countLookup kind outcome).Abides terms ends :=
  Operation.abides_ask (lets _ trivial) fun _ _ => ended

/-- A lookup does not fail, and finds what can be read of a text that the cache gave. -/
theorem abides_cached {α : Type} [Wire α] {kind : EntryKind} {cacheKey : String}
    {ends : Except ServiceError (Option α) → Prop}
    (lets : terms.LetsLookUp cacheKey)
    (hit : ∀ text value,
      terms.gives (.call (.cacheGet cacheKey)) (.answered (some text)) →
        Wire.decode? text = some value → ends (.ok (some value)))
    (miss : ends (.ok none)) :
    (cached α kind cacheKey).Abides terms ends := by
  refine Operation.abides_bind (Operation.abides_attempt (Operation.abides_call
    (lets _ rfl) (lets _ trivial) fun outcome given => ?_))
  have misses (outcome : LookupOutcome) :
      (do countLookup kind outcome; return none : Operation (Option α)).Abides terms ends :=
    Operation.abides_bind (abides_countLookup lets (Operation.abides_pure miss))
  cases outcome with
  | failed error => exact misses .error
  | timedOut => exact misses .error
  | answered text? =>
      cases text? with
      | none => exact misses .miss
      | some text =>
          dsimp only [Outcome.toExcept]
          cases decoded : Wire.decode? (α := α) text with
          | some value =>
              exact Operation.abides_bind (abides_countLookup lets
                (Operation.abides_pure (hit text value given decoded)))
          | none =>
              exact Operation.abides_bind (abides_countLookup lets
                (Operation.abides_bind (abides_evict lets (Operation.abides_pure miss))))

/-- Filling does not fail. -/
theorem abides_populate {α : Type} [Wire α] {layer : Layer} {cacheKey : String} {value : α}
    {ends : Except ServiceError Unit → Prop}
    (lets : terms.LetsLookUp cacheKey)
    (fills : terms.asks (.call (.cacheSet cacheKey (Wire.encode value) layer.lifetime)))
    (ended : ends (.ok ())) :
    (layer.populate cacheKey value).Abides terms ends :=
  Operation.abides_bind (Operation.abides_attempt (Operation.abides_call
    fills (lets _ trivial) fun _ _ => Operation.abides_pure ended))

/-- A read of a flag looks up one entry and asks the store for the same flag. -/
theorem abides_getFlag_of_lookUp {layer : Layer} {environment key : String}
    {ends : Except ServiceError (Option Flag) → Prop}
    (lets : terms.LetsLookUp (flagCacheKey environment key))
    (asks : terms.asks (.call (.readFlag environment key)))
    (hit : ∀ text flag,
      terms.gives (.call (.cacheGet (flagCacheKey environment key))) (.answered (some text)) →
        Wire.decode? text = some flag → ends (.ok (some flag)))
    (read : ∀ outcome, terms.gives (.call (.readFlag environment key)) outcome →
      ends (outcome.toExcept "flag lookup"))
    (fills : ∀ flag, terms.gives (.call (.readFlag environment key)) (.answered (some flag)) →
      terms.asks
        (.call (.cacheSet (flagCacheKey environment key) (Wire.encode flag) layer.lifetime))) :
    (layer.getFlag environment key).Abides terms ends := by
  refine Operation.abides_bind (abides_cached lets
    (fun text flag given decoded => Operation.abides_pure (hit text flag given decoded)) ?_)
  refine Operation.abides_bind (Operation.abides_call asks (lets _ trivial) fun outcome given => ?_)
  have ended := read outcome given
  cases outcome with
  | failed error => exact ended
  | timedOut => exact ended
  | answered flag? =>
      cases flag? with
      | none => exact Operation.abides_pure ended
      | some flag =>
          exact Operation.abides_bind (abides_populate lets (fills flag given)
            (Operation.abides_pure ended))

/-- A read of a flag ends with a flag that the cache gave, or as the store answers. -/
theorem abides_getFlag {layer : Layer} {environment key : String}
    {ends : Except ServiceError (Option Flag) → Prop}
    (lets : terms.LetsInquire)
    (hit : ∀ text flag,
      terms.gives (.call (.cacheGet (flagCacheKey environment key))) (.answered (some text)) →
        Wire.decode? text = some flag → ends (.ok (some flag)))
    (read : ∀ outcome, terms.gives (.call (.readFlag environment key)) outcome →
      ends (outcome.toExcept "flag lookup"))
    (fills : ∀ flag, terms.gives (.call (.readFlag environment key)) (.answered (some flag)) →
      terms.asks
        (.call (.cacheSet (flagCacheKey environment key) (Wire.encode flag) layer.lifetime))) :
    (layer.getFlag environment key).Abides terms ends :=
  abides_getFlag_of_lookUp (lets.lookUp _) (lets _ trivial) hit read fills

/-- A read of an override looks up one entry and asks the store for the same scope. -/
theorem abides_getOverrideAt_of_lookUp {layer : Layer} {scope : Scope} {now : Instant}
    {ends : Except ServiceError (Option OverrideValue) → Prop}
    (lets : terms.LetsLookUp (overrideCacheKey scope))
    (asks : terms.asks (.call (.findOverride scope now)))
    (hit : ∀ text copy,
      terms.gives (.call (.cacheGet (overrideCacheKey scope))) (.answered (some text)) →
        Wire.decode? text = some copy →
          ends (.ok ((some copy).filter (OverrideValue.isActive · now))))
    (found : ∀ outcome, terms.gives (.call (.findOverride scope now)) outcome →
      ends (outcome.toExcept "override lookup"))
    (fills : ∀ value, terms.gives (.call (.findOverride scope now)) (.answered (some value)) →
      terms.asks
        (.call (.cacheSet (overrideCacheKey scope) (Wire.encode value) layer.lifetime))) :
    (layer.getOverrideAt scope now).Abides terms ends := by
  refine Operation.abides_bind (abides_cached lets (fun text copy given decoded => ?_) ?_)
  · have ended := hit text copy given decoded
    rw [Option.filter_some] at ended
    by_cases active : copy.isActive now = true
    · rw [if_pos active] at ended
      simp only [active, if_true]
      exact Operation.abides_pure ended
    · rw [if_neg active] at ended
      simp only [active, if_false, Bool.false_eq_true]
      exact Operation.abides_bind (abides_evict lets (Operation.abides_pure ended))
  · refine Operation.abides_bind (Operation.abides_call asks (lets _ trivial)
      fun outcome given => ?_)
    have ended := found outcome given
    cases outcome with
    | failed error => exact ended
    | timedOut => exact ended
    | answered value? =>
        cases value? with
        | none => exact Operation.abides_pure ended
        | some value =>
            exact Operation.abides_bind (abides_populate lets (fills value given)
              (Operation.abides_pure ended))

/-- A read of an override judges a copy that the cache gave, or ends as the store answers. -/
theorem abides_getOverrideAt {layer : Layer} {scope : Scope} {now : Instant}
    {ends : Except ServiceError (Option OverrideValue) → Prop}
    (lets : terms.LetsInquire)
    (hit : ∀ text copy,
      terms.gives (.call (.cacheGet (overrideCacheKey scope))) (.answered (some text)) →
        Wire.decode? text = some copy →
          ends (.ok ((some copy).filter (OverrideValue.isActive · now))))
    (found : ∀ outcome, terms.gives (.call (.findOverride scope now)) outcome →
      ends (outcome.toExcept "override lookup"))
    (fills : ∀ value, terms.gives (.call (.findOverride scope now)) (.answered (some value)) →
      terms.asks
        (.call (.cacheSet (overrideCacheKey scope) (Wire.encode value) layer.lifetime))) :
    (layer.getOverrideAt scope now).Abides terms ends :=
  abides_getOverrideAt_of_lookUp (lets.lookUp _) (lets _ trivial) hit found fills

/-- A read of an override asks for the instant first. -/
theorem abides_getOverride {layer : Layer} {scope : Scope}
    {ends : Except ServiceError (Option OverrideValue) → Prop}
    (asks : terms.asks .readClock)
    (reads : ∀ now, terms.gives .readClock now →
      (layer.getOverrideAt scope now).Abides terms ends) :
    (layer.getOverride scope).Abides terms ends :=
  Operation.abides_bind (Operation.abides_ask asks reads)

end Layer

namespace Resolver

variable {terms : Terms} {resolver : Resolver} {environment key : String}
variable {tenantId userId : Option String} {context : Context} {now : Instant}

/-- The scopes whose overrides a resolution may look for. -/
def tierScopes (environment key : String) (tenantId userId : Option String) : List Scope :=
  (userId.map (Scope.user environment key)).toList ++
    (tenantId.map (Scope.tenant environment key)).toList

theorem names_of_mem_tierScopes {scope : Scope}
    (member : scope ∈ tierScopes environment key tenantId userId) :
    scope.environment = environment ∧ scope.key = key := by
  rcases List.mem_append.mp member with ofUser | ofTenant
  · obtain ⟨holder, _, rfl⟩ := Option.map_eq_some_iff.mp (Option.mem_toList.mp ofUser)
    exact ⟨rfl, rfl⟩
  · obtain ⟨holder, _, rfl⟩ := Option.map_eq_some_iff.mp (Option.mem_toList.mp ofTenant)
    exact ⟨rfl, rfl⟩

/--
Reads that a resolver may have made: those of each tier that it looks into are such as reads
of this scope and of this flag are.
-/
structure Explains
    (policy : FailurePolicy)
    (seen : Scope → OverrideRead → Prop)
    (stored : Except ServiceError (Option Flag) → Prop)
    (environment key : String)
    (tenantId userId : Option String)
    (reads : TierReads) : Prop where
  user : Option.Rel seen (userId.map (Scope.user environment key)) reads.user
  tenant : policy.Passes reads.user →
    Option.Rel seen (tenantId.map (Scope.tenant environment key)) reads.tenant
  flag : policy.Passes reads.user → policy.Passes reads.tenant → stored reads.flag

section Explained

variable {policy : FailurePolicy} {seen : Scope → OverrideRead → Prop}
variable {stored : Except ServiceError (Option Flag) → Prop} {user tenant : Option OverrideRead}
variable (userSeen : Option.Rel seen (userId.map (Scope.user environment key)) user)
include userSeen

/-- Where the tier of users does not pass, nothing is said of the tiers below it. -/
private theorem explains_of_user (stops : ¬policy.Passes user) :
    Explains policy seen stored environment key tenantId userId ⟨user, none, .ok none⟩ where
  user := userSeen
  tenant passes := absurd passes stops
  flag passes := absurd passes stops

/-- Where the tier of tenants does not pass, nothing is said of the flag. -/
private theorem explains_of_tenant
    (tenantSeen : Option.Rel seen (tenantId.map (Scope.tenant environment key)) tenant)
    (stops : ¬policy.Passes tenant) :
    Explains policy seen stored environment key tenantId userId ⟨user, tenant, .ok none⟩ where
  user := userSeen
  tenant _ := tenantSeen
  flag _ passes := absurd passes stops

end Explained

private theorem abides_lookupTier {scope? : Option Scope} {seen : Scope → OverrideRead → Prop}
    {ends : Except ServiceError (Option OverrideValue) → Prop}
    (overrides : ∀ scope, scope? = some scope →
      (resolver.layer.getOverride scope).Abides terms (seen scope))
    (ended : ∀ read, Option.Rel seen scope? read → ends (resolver.policy.judgeTier read)) :
    (resolver.lookupTier scope?).Abides terms ends := by
  cases scope? with
  | none => exact Operation.abides_pure (ended none .none)
  | some scope =>
      refine Operation.abides_bind (Operation.abides_attempt
        ((overrides scope rfl).mono fun read isSeen => ?_))
      have judged := ended (some read) (.some isSeen)
      cases read with
      | ok found => exact Operation.abides_pure judged
      | error error =>
          by_cases excused : resolver.policy.Excuses error
          · have tested : (error.isInfrastructure && resolver.policy == .treatAsAbsent) = true := by
              simp [excused.1, excused.2]
            simp only [FailurePolicy.judgeTier, FailurePolicy.judge, excused, if_true] at judged
            simp only [tested, if_true]
            exact Operation.abides_pure judged
          · have tested :
                ¬(error.isInfrastructure && resolver.policy == .treatAsAbsent) = true := by
              intro tested
              rw [Bool.and_eq_true, beq_iff_eq] at tested
              exact excused ⟨tested.2, tested.1⟩
            simp only [FailurePolicy.judgeTier, FailurePolicy.judge, excused, if_false] at judged
            simp only [tested, if_false, Bool.false_eq_true]
            exact Operation.abides_throw judged

/-- A resolution ends as the reads of its tiers have it. -/
theorem abides_resolve {seen : Scope → OverrideRead → Prop}
    {stored : Except ServiceError (Option Flag) → Prop}
    {ends : Except ServiceError Resolution → Prop}
    (asks : terms.asks .readClock)
    (counts : ∀ counter amount, terms.asks (.count counter amount))
    (overrides : ∀ scope ∈ tierScopes environment key tenantId userId,
      (resolver.layer.getOverride scope).Abides terms (seen scope))
    (flags : (resolver.layer.getFlag environment key).Abides terms stored)
    (clocks : ∀ clock, terms.gives .readClock clock →
      context.instantAt clock = context.instantAt now)
    (ended : ∀ reads,
      Explains resolver.policy seen stored environment key tenantId userId reads →
        ends (reads.outcome resolver.policy context now)) :
    (resolver.resolve environment key tenantId userId context).Abides terms ends := by
  have counted (resolution : Resolution) (finish : ends (.ok resolution)) :
      (do
        Operation.count ⟨.evaluations, [resolution.reason.label]⟩
        return resolution : Operation Resolution).Abides terms ends :=
    Operation.abides_bind (Operation.abides_ask (counts _ _) fun _ _ =>
      Operation.abides_pure finish)
  have stops (read : Option OverrideRead) (judged : resolver.policy.judgeTier read ≠ .ok none) :
      ¬resolver.policy.Passes read :=
    mt FailurePolicy.passes_iff.mp judged
  refine Operation.abides_bind (Operation.abides_bind (abides_lookupTier
    (fun scope isKnown => overrides scope
      (List.mem_append_left _ (Option.mem_toList.mpr isKnown))) fun user userSeen => ?_))
  rcases userRead : resolver.policy.judgeTier user with error | _ | found
  · have finish := ended _ (explains_of_user userSeen (stops user (by simp [userRead])))
    simp only [TierReads.outcome, userRead] at finish
    exact finish
  · refine Operation.abides_bind (abides_lookupTier
      (fun scope isKnown => overrides scope
        (List.mem_append_right _ (Option.mem_toList.mpr isKnown))) fun tenant tenantSeen => ?_)
    rcases tenantRead : resolver.policy.judgeTier tenant with error | _ | found
    · have finish := ended _
        (explains_of_tenant userSeen tenantSeen (stops tenant (by simp [tenantRead])))
      simp only [TierReads.outcome, userRead, tenantRead] at finish
      exact finish
    · refine Operation.abides_bind (flags.mono fun read isStored => ?_)
      have finish := ended ⟨user, tenant, read⟩
        ⟨userSeen, fun _ => tenantSeen, fun _ _ => isStored⟩
      simp only [TierReads.outcome, userRead, tenantRead] at finish
      cases read with
      | error error => exact finish
      | ok flag? =>
          refine Operation.abides_bind (Operation.abides_ask asks fun clock shown => ?_)
          have same := resolveFlag_of_instantAt (clocks clock shown) flag?
          exact counted _ (same ▸ finish)
    · have finish := ended _
        (explains_of_tenant userSeen tenantSeen (stops tenant (by simp [tenantRead])))
      simp only [TierReads.outcome, userRead, tenantRead] at finish
      exact counted _ finish
  · have finish := ended _ (explains_of_user userSeen (stops user (by simp [userRead])))
    simp only [TierReads.outcome, userRead] at finish
    exact counted _ finish

end Resolver

end Switchboard
