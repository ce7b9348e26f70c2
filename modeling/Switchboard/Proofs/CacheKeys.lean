import Switchboard.Invalidation

namespace Switchboard

/-!
# Cache keys tell entries apart

The parts of a cache key stand between colons, and valid names have none.  The key
of a flag whose names have no colon is the key of no other flag, and two overrides with
such names share a key only where they have one scope.  A holder may contain anything:
it stands last.
-/

/-- The names of an environment and of a flag that no colon cuts in two. -/
def UncutNames (environment key : String) : Prop :=
  ':' ∉ environment.toList ∧ ':' ∉ key.toList

instance (environment key : String) : Decidable (UncutNames environment key) :=
  inferInstanceAs (Decidable (_ ∧ _))

/-- The names of an environment and of a flag that every request is checked for. -/
def ValidNames (environment key : String) : Prop :=
  isEnvironment environment = true ∧ isFlagKey key = true

instance (environment key : String) : Decidable (ValidNames environment key) :=
  inferInstanceAs (Decidable (_ ∧ _))

/-- The names of a scope are valid. -/
abbrev Scope.HasValidNames (scope : Scope) : Prop :=
  ValidNames scope.environment scope.key

/-- A checked scope has valid names. -/
theorem Scope.hasValidNames_of_check {scope : Scope} (checked : scope.check = .ok ()) :
    scope.HasValidNames := by
  unfold check checkEnvironment checkFlagKey at checked
  by_cases environment : isEnvironment scope.environment = true
  · by_cases key : isFlagKey scope.key = true
    · exact ⟨environment, key⟩
    · simp [environment, key, bind, Except.bind] at checked
  · simp [environment, bind, Except.bind] at checked

private theorem colon_not_mem_identifier {allowed : Char → Bool} {characters : List Char}
    (notAllowed : allowed ':' = false)
    (identifier : isIdentifier allowed characters = true) :
    ':' ∉ characters := by
  cases characters with
  | nil => simp
  | cons first rest =>
      simp only [isIdentifier, Bool.and_eq_true, List.all_eq_true] at identifier
      intro member
      rcases List.mem_cons.mp member with isFirst | inRest
      · rw [← isFirst] at identifier
        exact absurd identifier.1 (by decide)
      · have isAllowed := identifier.2 ':' inRest
        rw [notAllowed] at isAllowed
        cases isAllowed

/-- An environment name has no colon. -/
theorem colon_not_mem_environment {name : String} (valid : isEnvironment name = true) :
    ':' ∉ name.toList := by
  simp only [isEnvironment, Bool.and_eq_true] at valid
  exact colon_not_mem_identifier (by decide) valid.2

/-- A flag key has no colon. -/
theorem colon_not_mem_flagKey {key : String} (valid : isFlagKey key = true) :
    ':' ∉ key.toList := by
  simp only [isFlagKey, Bool.and_eq_true] at valid
  exact colon_not_mem_identifier (by decide) valid.2

/-- Names that every request is checked for have no colon. -/
theorem ValidNames.uncut {environment key : String} (valid : ValidNames environment key) :
    UncutNames environment key :=
  ⟨colon_not_mem_environment valid.1, colon_not_mem_flagKey valid.2⟩

/-- What stands before the first colon of two equal texts is the same. -/
private theorem split_first_colon {first second firstRest secondRest : List Char}
    (firstFree : ':' ∉ first)
    (secondFree : ':' ∉ second)
    (same : first ++ ':' :: firstRest = second ++ ':' :: secondRest) :
    first = second ∧ firstRest = secondRest := by
  induction first generalizing second with
  | nil =>
      cases second with
      | nil => exact ⟨rfl, (List.cons.inj same).2⟩
      | cons c later =>
          have isColon : ':' = c := (List.cons.inj same).1
          exact absurd (isColon ▸ List.mem_cons_self) secondFree
  | cons c later inductionHypothesis =>
      cases second with
      | nil =>
          have isColon : c = ':' := (List.cons.inj same).1
          exact absurd (isColon ▸ List.mem_cons_self) firstFree
      | cons other rest =>
          obtain ⟨sameHead, sameTail⟩ := List.cons.inj same
          have laterFree : ':' ∉ later := fun member => firstFree (List.mem_cons_of_mem c member)
          have restFree : ':' ∉ rest := fun member => secondFree (List.mem_cons_of_mem other member)
          obtain ⟨sameLater, sameRest⟩ := inductionHypothesis laterFree restFree sameTail
          exact ⟨by rw [sameHead, sameLater], sameRest⟩

private theorem toList_colon : ":".toList = [':'] := by
  decide

private theorem toList_flagCacheKey (environment key : String) :
    (flagCacheKey environment key).toList =
      "toggles:flag:".toList ++ (environment.toList ++ ':' :: key.toList) := by
  rw [flagCacheKey, String.toList_append, String.toList_append, String.toList_append,
    toList_colon, List.append_assoc, List.append_assoc, List.singleton_append]

private theorem toList_overrideCacheKey (scope : Scope) :
    (overrideCacheKey scope).toList =
      "toggles:override:".toList ++ (scope.environment.toList ++ ':' :: (scope.key.toList ++
        ':' :: (scope.kind.label.toList ++ ':' :: scope.holder.toList))) := by
  unfold overrideCacheKey
  iterate 7 rw [String.toList_append]
  rw [toList_colon]
  iterate 6 rw [List.append_assoc]
  iterate 3 rw [List.singleton_append]

/-- No other flag, however it is named, has the cache key of a flag with uncut names. -/
theorem flagCacheKey_inj_of_uncut {environment key otherEnvironment otherKey : String}
    (uncut : UncutNames environment key) :
    flagCacheKey otherEnvironment otherKey = flagCacheKey environment key ↔
      otherEnvironment = environment ∧ otherKey = key := by
  constructor
  · intro same
    obtain ⟨environmentFree, keyFree⟩ := uncut
    have characters := congrArg String.toList same
    rw [toList_flagCacheKey, toList_flagCacheKey] at characters
    have parts := List.append_cancel_left characters
    have otherFree : ':' ∉ otherEnvironment.toList := by
      intro member
      have counted := congrArg (List.count ':') parts
      have inOther := List.count_pos_iff.mpr member
      have inEnvironment := List.count_eq_zero.mpr environmentFree
      have inKey := List.count_eq_zero.mpr keyFree
      simp only [List.count_append, List.count_cons_self] at counted
      omega
    obtain ⟨sameEnvironment, sameKey⟩ := split_first_colon otherFree environmentFree parts
    exact ⟨String.toList_inj.mp sameEnvironment, String.toList_inj.mp sameKey⟩
  · rintro ⟨rfl, rfl⟩
    rfl

/-- No other flag, however it is named, has the cache key of a flag with valid names. -/
theorem flagCacheKey_inj {environment key otherEnvironment otherKey : String}
    (valid : ValidNames environment key) :
    flagCacheKey otherEnvironment otherKey = flagCacheKey environment key ↔
      otherEnvironment = environment ∧ otherKey = key :=
  flagCacheKey_inj_of_uncut valid.uncut

private theorem colon_not_mem_label (kind : ScopeKind) : ':' ∉ kind.label.toList := by
  cases kind <;> decide

private theorem label_inj {first second : ScopeKind} (same : first.label = second.label) :
    first = second := by
  have read := congrArg ScopeKind.ofLabel? same
  rw [ScopeKind.ofLabel_label, ScopeKind.ofLabel_label] at read
  exact Option.some.inj read

/-- Scopes with uncut names have different cache keys, whoever holds them. -/
theorem overrideCacheKey_inj_of_uncut {first second : Scope}
    (firstUncut : UncutNames first.environment first.key)
    (secondUncut : UncutNames second.environment second.key) :
    overrideCacheKey first = overrideCacheKey second ↔ first = second := by
  constructor
  · intro same
    have characters := congrArg String.toList same
    rw [toList_overrideCacheKey, toList_overrideCacheKey] at characters
    obtain ⟨sameEnvironment, afterEnvironment⟩ :=
      split_first_colon firstUncut.1 secondUncut.1 (List.append_cancel_left characters)
    obtain ⟨sameKey, afterKey⟩ := split_first_colon firstUncut.2 secondUncut.2 afterEnvironment
    obtain ⟨sameLabel, sameHolder⟩ :=
      split_first_colon (colon_not_mem_label first.kind) (colon_not_mem_label second.kind) afterKey
    have sameKind := label_inj (String.toList_inj.mp sameLabel)
    obtain ⟨firstEnvironment, firstKey, firstKind, firstHolder⟩ := first
    obtain ⟨secondEnvironment, secondKey, secondKind, secondHolder⟩ := second
    simp only [Scope.mk.injEq]
    exact ⟨String.toList_inj.mp sameEnvironment, String.toList_inj.mp sameKey, sameKind,
      String.toList_inj.mp sameHolder⟩
  · rintro rfl
    rfl

/-- Scopes with valid names have different cache keys. -/
theorem overrideCacheKey_inj {first second : Scope}
    (firstValid : first.HasValidNames)
    (secondValid : second.HasValidNames) :
    overrideCacheKey first = overrideCacheKey second ↔ first = second :=
  overrideCacheKey_inj_of_uncut firstValid.uncut secondValid.uncut

/-- The cache tells a scope from another one, unless it is that one. -/
def Scope.IsToldFrom (scope other : Scope) : Prop :=
  overrideCacheKey other = overrideCacheKey scope → other = scope

/-- Scopes with valid names are told from each other. -/
theorem Scope.HasValidNames.isToldFrom {scope other : Scope}
    (valid : scope.HasValidNames)
    (otherValid : other.HasValidNames) :
    scope.IsToldFrom other :=
  (overrideCacheKey_inj otherValid valid).mp

/-- A scope with valid names, whose holder has a colon. -/
def Scope.cutHolder : Scope :=
  ⟨"prod", "abc", .user, "user:x"⟩

/-- A scope whose key has a colon. -/
def Scope.cutKey : Scope :=
  ⟨"prod", "abc:user", .user, "x"⟩

/-- Where a key has a colon, two scopes may share a cache key. -/
example : overrideCacheKey .cutKey = overrideCacheKey .cutHolder := by
  decide

/-- Flags and overrides never share a cache key. -/
theorem flagCacheKey_ne_overrideCacheKey (environment key : String) (scope : Scope) :
    flagCacheKey environment key ≠ overrideCacheKey scope := by
  intro same
  have characters := congrArg (List.take 9) (congrArg String.toList same)
  rw [toList_flagCacheKey, toList_overrideCacheKey,
    List.take_append_of_le_length (by decide), List.take_append_of_le_length (by decide)]
    at characters
  exact absurd characters (by decide)

end Switchboard
