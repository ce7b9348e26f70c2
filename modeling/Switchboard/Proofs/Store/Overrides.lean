import Switchboard.Proofs.CacheKeys
import Switchboard.Proofs.Time.StoredOrder
import Switchboard.Proofs.Wire.Dated
import Switchboard.Store.Overrides

namespace Switchboard

/-!
# What readers see of stored overrides

A table is sound when it has one row for each scope and every expiry is the stored
form of an instant of four digit years.  Then what is seen of a scope depends on the
instant of reading only through the expiry, and comparing texts decides what
comparing instants would.  Writes of one scope leave what is seen of another, and a
sweep removes only what no later reader would have seen.
-/

/-- The expiry is such as a row tells: of a year of four digits, in whole microseconds. -/
def OverrideValue.IsStored (state : OverrideValue) : Prop :=
  ∀ expiry ∈ state.expiresAt, expiry.IsStorable ∧ expiry.truncateToMicros = expiry

/-- What is in force later was in force before. -/
theorem OverrideValue.isActive_mono {value : OverrideValue} {earlier later : Instant}
    (ordered : earlier ≤ later)
    (active : value.isActive later = true) :
    value.isActive earlier = true := by
  unfold isActive at active ⊢
  cases expires : value.expiresAt with
  | none => rfl
  | some expiry =>
      rw [expires] at active
      have before : later < expiry := of_decide_eq_true active
      exact decide_eq_true (Int.lt_of_le_of_lt ordered before)

namespace OverrideRow

/-- A row belongs to the scope whose parts it has. -/
theorem isOf_iff {row : OverrideRow} {scope : Scope} :
    row.isOf scope = true ↔
      row.environment = scope.environment ∧ row.key = scope.key ∧
        row.scopeType = scope.kind.label ∧ row.holder = scope.holder := by
  simp [isOf, and_assoc]

/-- A row belongs to one scope only. -/
theorem scope_unique {row : OverrideRow} {first second : Scope}
    (isOfFirst : row.isOf first = true)
    (isOfSecond : row.isOf second = true) :
    first = second := by
  obtain ⟨firstEnvironment, firstKey, firstKind, firstHolder⟩ := isOf_iff.mp isOfFirst
  obtain ⟨secondEnvironment, secondKey, secondKind, secondHolder⟩ := isOf_iff.mp isOfSecond
  have sameKind : first.kind = second.kind := by
    have labels := congrArg ScopeKind.ofLabel? (firstKind.symm.trans secondKind)
    rw [ScopeKind.ofLabel_label, ScopeKind.ofLabel_label] at labels
    exact Option.some.inj labels
  obtain ⟨environment, key, kind, holder⟩ := first
  obtain ⟨otherEnvironment, otherKey, otherKind, otherHolder⟩ := second
  simp only [Scope.mk.injEq]
  exact ⟨firstEnvironment.symm.trans secondEnvironment, firstKey.symm.trans secondKey, sameKind,
    firstHolder.symm.trans secondHolder⟩

/-- A row of one scope belongs to no other. -/
theorem isOf_eq_false {row : OverrideRow} {scope other : Scope}
    (isOf : row.isOf scope = true)
    (different : scope ≠ other) :
    row.isOf other = false :=
  Bool.eq_false_iff.mpr fun isOther => different (scope_unique isOf isOther)

/-- The expiry of a row, if it has one, is the stored form of an instant. -/
def HasStoredExpiry (row : OverrideRow) : Prop :=
  ∀ text, row.expiresAt = some text → ∃ expiry : Instant, expiry.IsStorable ∧ text = expiry.toStored

/-- A clock shows the instant that a column gives. -/
theorem isShown_of_storedOptionalInstant {column : String} {text? : Option String}
    {instant? : Option Instant}
    (read : storedOptionalInstant column text? = .ok instant?) :
    Dated.IsShown instant? := by
  unfold storedOptionalInstant at read
  split at read
  · cases read
    exact Dated.isShown_none
  · rename_i text
    unfold storedInstant at read
    cases readText : Instant.readStrict text with
    | none => simp [readText, Except.map] at read
    | some instant =>
        simp only [readText, Except.map, Except.ok.injEq] at read
        subst read
        exact Dated.isShown_some.mpr (Instant.isShown_of_readStrict readText)

/-- A stored expiry is read, and comparing its text compares the instants. -/
theorem HasStoredExpiry.read {row : OverrideRow} (stored : row.HasStoredExpiry) :
    ∃ state : OverrideValue,
      storedOptionalInstant "expires_at" row.expiresAt = .ok state.expiresAt ∧
        state.value = row.value ∧
          ∀ now : Instant, now.IsStorable → row.isExpired now.toStored = !state.isActive now := by
  cases expires : row.expiresAt with
  | none =>
      refine ⟨⟨row.value, none⟩, rfl, rfl, ?_⟩
      intro now _
      simp [isExpired, expires, OverrideValue.isActive]
  | some text =>
      obtain ⟨expiry, expiryStorable, rfl⟩ := stored text expires
      refine ⟨⟨row.value, some expiry.truncateToMicros⟩, ?_, rfl, ?_⟩
      · simp [storedOptionalInstant, storedInstant, Instant.readStrict_toStored expiryStorable,
          Except.map]
      · intro now nowStorable
        have order :
            expiry.toStored ≤ now.toStored ↔ ¬now < expiry.truncateToMicros := by
          rw [← Std.not_lt, Instant.toStored_lt_iff nowStorable expiryStorable,
            Instant.truncateToMicros_lt_truncateToMicros]
        simp [isExpired, expires, OverrideValue.isActive, order]

/-- What is read of a stored expiry is such as a row tells. -/
theorem HasStoredExpiry.isStored {row : OverrideRow} (stored : row.HasStoredExpiry)
    {state : OverrideValue}
    (read : storedOptionalInstant "expires_at" row.expiresAt = .ok state.expiresAt) :
    state.IsStored := by
  unfold OverrideValue.IsStored
  cases expires : row.expiresAt with
  | none =>
      rw [expires] at read
      rw [← Except.ok.inj read]
      rintro expiry ⟨⟩
  | some text =>
      obtain ⟨expiry, storable, rfl⟩ := stored text expires
      simp only [expires, storedOptionalInstant, storedInstant,
        Instant.readStrict_toStored storable, Except.map] at read
      rw [← Except.ok.inj read]
      rintro _ ⟨⟩
      exact ⟨storable.truncateToMicros, expiry.truncateToMicros_truncateToMicros⟩

/-- What expired before an instant is expired at it. -/
theorem isExpired_mono {row : OverrideRow} {earlier later : String}
    (ordered : earlier ≤ later)
    (expired : row.isExpired earlier = true) :
    row.isExpired later = true := by
  unfold isExpired at expired ⊢
  cases expires : row.expiresAt with
  | none => simp [expires] at expired
  | some text =>
      simp only [expires, Option.any_some, decide_eq_true_eq] at expired ⊢
      exact String.le_trans expired ordered

/-- No later reader sees a row that waits to be swept. -/
theorem not_isVisible_of_isDead {row : OverrideRow} {earlier later : String}
    (ordered : earlier ≤ later)
    (dead : row.isDead earlier = true) :
    row.isVisible later = false := by
  unfold isDead at dead
  unfold isVisible
  rcases Bool.or_eq_true_iff.mp dead with deleted | expired
  · obtain ⟨text, deletedAt⟩ := Option.isSome_iff_exists.mp deleted
    simp [deletedAt]
  · simp [isExpired_mono ordered expired]

/-- A new value keeps the scope of a row. -/
theorem isOf_revived (row : OverrideRow) (value : Bool) (expiresAt : Option Instant)
    (now : Instant) (scope : Scope) :
    (row.revived value expiresAt now).isOf scope = row.isOf scope :=
  rfl

/-- The first row of a scope belongs to it. -/
theorem isOf_first (id : OverrideId) (scope : Scope) (value : Bool) (expiresAt : Option Instant)
    (now : Instant) :
    (first id scope value expiresAt now).isOf scope = true :=
  isOf_iff.mpr ⟨rfl, rfl, rfl, rfl⟩

/-- An expiry that is written is stored, as a clock shows it. -/
theorem hasStoredExpiry_of_map {row : OverrideRow} {expiresAt : Option Instant}
    (plainYears : ∀ expiry ∈ expiresAt, expiry.HasPlainYear)
    (written : row.expiresAt = expiresAt.map Instant.toStored) :
    row.HasStoredExpiry := by
  intro text expires
  rw [written] at expires
  obtain ⟨expiry, isExpiry, rfl⟩ := Option.map_eq_some_iff.mp expires
  exact ⟨expiry.shown, (plainYears expiry isExpiry).isStorable_shown, expiry.toStored_shown.symm⟩

end OverrideRow

namespace OverrideTable

open OverrideRow

/-- No two rows belong to one scope. -/
def OnePerScope (table : OverrideTable) : Prop :=
  table.rows.Pairwise fun first second =>
    ∀ scope : Scope, first.isOf scope = true → second.isOf scope = false

/-- One row for each scope, and expiries that are stored instants. -/
structure IsSound (table : OverrideTable) : Prop where
  onePerScope :
    table.rows.Pairwise fun first second =>
      ∀ scope : Scope, first.isOf scope = true → second.isOf scope = false
  storedExpiry : ∀ row ∈ table.rows, row.HasStoredExpiry

/-- The table without rows is sound. -/
theorem isSound_empty : IsSound {} where
  onePerScope := List.Pairwise.nil
  storedExpiry _ member := by cases member

variable {table : OverrideTable} {scope : Scope}

/-- The row of a scope is a row of the table and belongs to it. -/
theorem mem_of_row {row : OverrideRow} (found : table.row? scope = some row) :
    row ∈ table.rows ∧ row.isOf scope = true :=
  ⟨List.mem_of_find?_eq_some found,
    List.find?_some (p := fun row : OverrideRow => row.isOf scope) found⟩

/-- Readers look at the one row of a scope. -/
private theorem find_visible
    {rows : List OverrideRow}
    (onePerScope :
      rows.Pairwise fun first second =>
        ∀ scope : Scope, first.isOf scope = true → second.isOf scope = false)
    (now : String) :
    rows.find? (fun row => row.isOf scope && row.isVisible now) =
      (rows.find? fun row => row.isOf scope).filter fun row => row.isVisible now := by
  induction rows with
  | nil => rfl
  | cons first rest inductionHypothesis =>
      obtain ⟨firstAlone, restOnePerScope⟩ := List.pairwise_cons.mp onePerScope
      by_cases isHere : first.isOf scope = true
      · have noOther : rest.find? (fun row => row.isOf scope && row.isVisible now) = none := by
          apply List.find?_eq_none.mpr
          intro row member
          simp [firstAlone row member scope isHere]
        by_cases visible : first.isVisible now = true
        · simp [isHere, visible, Option.filter_some]
        · simp [isHere, visible, noOther, Option.filter_some]
      · simp [isHere, inductionHypothesis restOnePerScope]

/-- What readers see of a scope is the one row of it, as long as it is visible. -/
theorem OnePerScope.find_eq (alone : table.OnePerScope) (scope : Scope) (now : Instant) :
    table.find scope now =
      match (table.row? scope).filter fun row => row.isVisible now.toStored with
      | none => .ok none
      | some row => do
          return some ⟨row.value, ← storedOptionalInstant "expires_at" row.expiresAt⟩ := by
  unfold find
  rw [find_visible alone]
  rfl

/--
What readers see of a scope of a sound table: one state or none, and the state as
long as it is in force.  No other state is seen at any instant.
-/
theorem IsSound.find_eq (sound : table.IsSound) (scope : Scope) :
    ∃ state? : Option OverrideValue,
      (∀ now : Instant, now.IsStorable →
        table.find scope now = .ok (state?.filter fun state => state.isActive now)) ∧
      ∀ now state, table.find scope now = .ok (some state) → state? = some state := by
  have sees := OnePerScope.find_eq sound.onePerScope scope
  cases found : table.row? scope with
  | none =>
      have nothing (now : Instant) : table.find scope now = .ok none := by
        rw [sees, found]
        rfl
      refine ⟨none, fun now _ => nothing now, fun now state seen => ?_⟩
      rw [nothing] at seen
      cases seen
  | some row =>
      cases deletedAt : row.deletedAt with
      | some text =>
          have nothing (now : Instant) : table.find scope now = .ok none := by
            have hidden : row.isVisible now.toStored = false := by simp [isVisible, deletedAt]
            rw [sees, found, Option.filter_some, hidden]
            rfl
          refine ⟨none, fun now _ => nothing now, fun now state seen => ?_⟩
          rw [nothing] at seen
          cases seen
      | none =>
          obtain ⟨state, read, value, expired⟩ :=
            (sound.storedExpiry row (mem_of_row found).1).read
          have finds (now : Instant) :
              table.find scope now =
                .ok (if row.isVisible now.toStored then some state else none) := by
            rw [sees, found, Option.filter_some]
            cases row.isVisible now.toStored with
            | false => rfl
            | true => simp [read, ← value, bind, Except.bind, pure, Except.pure]
          refine ⟨some state, fun now storable => ?_, fun now other seen => ?_⟩
          · have visible : row.isVisible now.toStored = state.isActive now := by
              simp [isVisible, deletedAt, expired now storable]
            rw [finds, visible]
            rfl
          · rw [finds] at seen
            exact (Option.ite_none_right_eq_some.mp (Except.ok.inj seen)).2

/-- A value that is made of a row and the expiry read from it has that expiry. -/
private theorem read_of_seen {row : OverrideRow} {state : OverrideValue}
    (seen : (do
      let expiresAt ← storedOptionalInstant "expires_at" row.expiresAt
      return some ⟨row.value, expiresAt⟩ : Except ServiceError (Option OverrideValue)) =
        .ok (some state)) :
    storedOptionalInstant "expires_at" row.expiresAt = .ok state.expiresAt := by
  cases read : storedOptionalInstant "expires_at" row.expiresAt with
  | error error =>
      rw [read] at seen
      cases seen
  | ok expiresAt =>
      rw [read] at seen
      cases seen
      rfl

/-- What is seen has such an expiry as a row tells. -/
theorem IsSound.isStored_of_find (sound : table.IsSound) {state : OverrideValue} {now : Instant}
    (seen : table.find scope now = .ok (some state)) :
    state.IsStored := by
  rw [OnePerScope.find_eq sound.onePerScope] at seen
  cases found : (table.row? scope).filter fun row => row.isVisible now.toStored with
  | none =>
      rw [found] at seen
      cases seen
  | some row =>
      have member := (mem_of_row (Option.filter_eq_some_iff.mp found).1).1
      rw [found] at seen
      exact (sound.storedExpiry row member).isStored (read_of_seen seen)

/-- What was seen at one instant is seen at every instant before its expiry, and at no other. -/
theorem IsSound.find_of_seen (sound : table.IsSound) {state : OverrideValue} {seenAt : Instant}
    (seen : table.find scope seenAt = .ok (some state)) :
    ∀ now : Instant, now.IsStorable →
      table.find scope now = .ok (if state.isActive now then some state else none) := by
  obtain ⟨state?, shown, only⟩ := sound.find_eq scope
  intro now nowStorable
  rw [shown now nowStorable, only seenAt state seen]
  rfl

/-- A clock shows the expiry of what is seen. -/
theorem isShown_of_find {state : OverrideValue} {now : Instant}
    (seen : table.find scope now = .ok (some state)) :
    Dated.IsShown state := by
  unfold find at seen
  split at seen
  · cases seen
  · rename_i row _
    exact isShown_of_storedOptionalInstant (read_of_seen seen)

private theorem OnePerScope.map (alone : table.OnePerScope) {change : OverrideRow → OverrideRow}
    (keepsScope : ∀ row scope, (change row).isOf scope = row.isOf scope) :
    OnePerScope ⟨table.rows.map change⟩ := by
  refine List.pairwise_map.mpr (List.Pairwise.imp ?_ alone)
  intro first second apart scope isOf
  rw [keepsScope] at isOf ⊢
  exact apart scope isOf

private theorem IsSound.map (sound : table.IsSound) {change : OverrideRow → OverrideRow}
    (keepsScope : ∀ row scope, (change row).isOf scope = row.isOf scope)
    (keepsExpiry : ∀ row ∈ table.rows, (change row).HasStoredExpiry) :
    IsSound ⟨table.rows.map change⟩ where
  onePerScope := OnePerScope.map sound.onePerScope keepsScope
  storedExpiry row member := by
    obtain ⟨origin, originMember, rfl⟩ := List.mem_map.mp member
    exact keepsExpiry origin originMember

private theorem find_map_other (scope : Scope) {change : OverrideRow → OverrideRow}
    {other : Scope}
    (keepsScope : ∀ row scope, (change row).isOf scope = row.isOf scope)
    (changesOnly : ∀ row : OverrideRow, row.isOf scope = false → change row = row)
    (different : other ≠ scope)
    (now : Instant) :
    find ⟨table.rows.map change⟩ other now = table.find other now := by
  have unchanged : ∀ row : OverrideRow, row.isOf other = true → change row = row := by
    intro row isOf
    exact changesOnly row (isOf_eq_false isOf different)
  have sameFound :
      (table.rows.map change).find? (fun row => row.isOf other && row.isVisible now.toStored) =
        table.rows.find? fun row => row.isOf other && row.isVisible now.toStored := by
    induction table.rows with
    | nil => rfl
    | cons first rest inductionHypothesis =>
        rw [List.map_cons, List.find?_cons, List.find?_cons, keepsScope, inductionHypothesis]
        cases isOf : first.isOf other with
        | false => rfl
        | true => rw [unchanged first isOf]
  unfold find
  rw [sameFound]

private theorem isOf_replaced {stored : OverrideRow} (value : Bool) (expiresAt : Option Instant)
    (now : Instant) (isStored : stored.isOf scope = true) (row : OverrideRow) (other : Scope) :
    (if row.isOf scope then stored.revived value expiresAt now else row).isOf other =
      row.isOf other := by
  split
  · rename_i isHere
    rw [isOf_revived]
    obtain ⟨environment, key, kind, holder⟩ := isOf_iff.mp isHere
    obtain ⟨storedEnvironment, storedKey, storedKind, storedHolder⟩ := isOf_iff.mp isStored
    simp [isOf, environment, key, kind, holder, storedEnvironment, storedKey, storedKind,
      storedHolder]
  · rfl

/-- A new value adds no second row of its scope. -/
theorem OnePerScope.upsert (alone : table.OnePerScope) (id : OverrideId) (scope : Scope)
    (value : Bool) (expiresAt : Option Instant) (now : Instant) :
    (table.upsert id scope value expiresAt now).2.OnePerScope := by
  unfold OverrideTable.upsert
  cases found : table.row? scope with
  | none =>
      refine List.pairwise_append.mpr ⟨alone, List.pairwise_singleton _ _, ?_⟩
      intro row member added isAdded shared isOf
      rw [List.mem_singleton.mp isAdded]
      unfold row? at found
      have absent := List.find?_eq_none.mp found row member
      apply isOf_eq_false (isOf_first id scope value expiresAt now)
      rintro rfl
      exact absent isOf
  | some stored => exact alone.map (isOf_replaced value expiresAt now (mem_of_row found).2)

/-- A new value keeps the table sound. -/
theorem IsSound.upsert (sound : table.IsSound) (id : OverrideId) (scope : Scope) (value : Bool)
    {expiresAt : Option Instant} (now : Instant)
    (plainYears : ∀ expiry ∈ expiresAt, expiry.HasPlainYear) :
    (table.upsert id scope value expiresAt now).2.IsSound := by
  have alone := OnePerScope.upsert sound.onePerScope id scope value expiresAt now
  unfold OverrideTable.upsert at alone ⊢
  cases found : table.row? scope with
  | none =>
      rw [found] at alone
      refine ⟨alone, ?_⟩
      intro row member
      rcases List.mem_append.mp member with isOld | isNew
      · exact sound.storedExpiry row isOld
      · rw [List.mem_singleton.mp isNew]
        exact hasStoredExpiry_of_map plainYears rfl
  | some stored =>
      apply sound.map
      · exact isOf_replaced value expiresAt now (mem_of_row found).2
      · intro row member
        split
        · exact hasStoredExpiry_of_map plainYears rfl
        · exact sound.storedExpiry row member

/-- A new value of one scope leaves what is seen of another. -/
theorem find_upsert_other {other : Scope} (id : OverrideId) (value : Bool)
    (expiresAt : Option Instant) (now readAt : Instant) (different : other ≠ scope) :
    (table.upsert id scope value expiresAt now).2.find other readAt = table.find other readAt := by
  unfold OverrideTable.upsert
  cases found : table.row? scope with
  | none =>
      have notOther : (first id scope value expiresAt now).isOf other = false :=
        isOf_eq_false (isOf_first id scope value expiresAt now) different.symm
      simp [find, List.find?_append, notOther]
  | some stored =>
      apply find_map_other scope
      · exact isOf_replaced value expiresAt now (mem_of_row found).2
      · intro row notHere
        simp [notHere]
      · exact different

private theorem isOf_softDeleted (now : Instant) (row : OverrideRow) (other : Scope) :
    (if row.isOf scope && row.deletedAt.isNone then row.cleared now else row).isOf other =
      row.isOf other := by
  split
  · rfl
  · rfl

/-- Clearing a scope adds no row. -/
theorem OnePerScope.softDelete (alone : table.OnePerScope) (scope : Scope) (now : Instant) :
    (table.softDelete scope now).OnePerScope :=
  alone.map (isOf_softDeleted now)

/-- Clearing a scope keeps the table sound. -/
theorem IsSound.softDelete (sound : table.IsSound) (scope : Scope) (now : Instant) :
    (table.softDelete scope now).IsSound := by
  apply sound.map
  · exact isOf_softDeleted now
  · intro row member
    split
    · exact sound.storedExpiry row member
    · exact sound.storedExpiry row member

/-- Clearing a scope leaves what is seen of another. -/
theorem find_softDelete_other {other : Scope} (now readAt : Instant) (different : other ≠ scope) :
    (table.softDelete scope now).find other readAt = table.find other readAt := by
  apply find_map_other scope
  · exact isOf_softDeleted now
  · intro row notHere
    simp [notHere]
  · exact different

private theorem IsSound.filter (sound : table.IsSound) (keeps : OverrideRow → Bool) :
    IsSound ⟨table.rows.filter keeps⟩ where
  onePerScope := sound.onePerScope.filter keeps
  storedExpiry row member := sound.storedExpiry row (List.mem_filter.mp member).1

/-- A sweep adds no row. -/
theorem OnePerScope.purge (alone : table.OnePerScope) (now : Instant) (ids : List OverrideId) :
    (table.purge now ids).2.OnePerScope := by
  induction ids generalizing table with
  | nil => exact alone
  | cons id rest inductionHypothesis => exact inductionHypothesis (List.Pairwise.filter _ alone)

/-- A sweep keeps the table sound. -/
theorem IsSound.purge (sound : table.IsSound) (now : Instant) (ids : List OverrideId) :
    (table.purge now ids).2.IsSound := by
  induction ids generalizing table with
  | nil => exact sound
  | cons id rest inductionHypothesis => exact inductionHypothesis (sound.filter _)

private theorem find_purgeOne {sweptAt readAt : Instant} (id : OverrideId)
    (ordered : sweptAt.toStored ≤ readAt.toStored) :
    (table.purgeOne sweptAt id).2.find scope readAt = table.find scope readAt := by
  have sameFound :
      (table.purgeOne sweptAt id).2.rows.find?
          (fun row => row.isOf scope && row.isVisible readAt.toStored) =
        table.rows.find? fun row => row.isOf scope && row.isVisible readAt.toStored := by
    simp only [purgeOne, List.find?_filter]
    congr 1
    funext row
    by_cases dead : row.isDead sweptAt.toStored = true
    · simp [not_isVisible_of_isDead ordered dead]
    · simp [dead]
  unfold find
  rw [sameFound]

/-- A sweep leaves what is seen at its instant and later. -/
theorem find_purge {sweptAt readAt : Instant} (ids : List OverrideId)
    (sweptStorable : sweptAt.IsStorable)
    (readStorable : readAt.IsStorable)
    (ordered : sweptAt ≤ readAt) :
    (table.purge sweptAt ids).2.find scope readAt = table.find scope readAt := by
  have texts := Instant.toStored_le_toStored sweptStorable readStorable ordered
  induction ids generalizing table with
  | nil => rfl
  | cons id rest inductionHypothesis =>
      exact inductionHypothesis.trans (find_purgeOne id texts)

/-! ## Scopes that have rows -/

/-- Only allowed scopes have rows. -/
def HasOnly (table : OverrideTable) (allowed : Scope → Prop) : Prop :=
  ∀ row ∈ table.rows, ∀ scope : Scope, row.isOf scope = true → allowed scope

variable {allowed : Scope → Prop}

theorem hasOnly_empty : HasOnly {} allowed := by
  intro row member
  cases member

/-- Only a scope that has a row is seen. -/
theorem HasOnly.of_find {value : OverrideValue} {now : Instant}
    (only : table.HasOnly allowed)
    (found : table.find scope now = .ok (some value)) :
    allowed scope := by
  unfold find at found
  split at found
  · cases found
  · rename_i row isRow
    have belongs := List.find?_some isRow
    simp only [Bool.and_eq_true] at belongs
    exact only row (List.mem_of_find?_eq_some isRow) scope belongs.1

private theorem hasOnly_map_iff {change : OverrideRow → OverrideRow}
    (keepsScope : ∀ row scope, (change row).isOf scope = row.isOf scope) :
    HasOnly ⟨table.rows.map change⟩ allowed ↔ table.HasOnly allowed := by
  simp only [HasOnly, List.forall_mem_map, keepsScope]

/-- After a new value, its scope and those of before have rows. -/
theorem hasOnly_upsert_iff {id : OverrideId} {value : Bool} {expiresAt : Option Instant}
    {now : Instant} :
    (table.upsert id scope value expiresAt now).2.HasOnly allowed ↔
      table.HasOnly allowed ∧ allowed scope := by
  unfold OverrideTable.upsert
  cases found : table.row? scope with
  | none =>
      have isOf := isOf_first id scope value expiresAt now
      constructor
      · intro only
        exact ⟨fun row member => only row (List.mem_append_left _ member),
          only _ (List.mem_append_right _ (List.mem_singleton_self _)) scope isOf⟩
      · rintro ⟨only, isAllowed⟩ row member other isOther
        rcases List.mem_append.mp member with isOld | isNew
        · exact only row isOld other isOther
        · rw [List.mem_singleton.mp isNew] at isOther
          exact scope_unique isOf isOther ▸ isAllowed
  | some stored =>
      obtain ⟨member, isOf⟩ := mem_of_row found
      rw [hasOnly_map_iff (isOf_replaced value expiresAt now isOf)]
      exact (and_iff_left_of_imp fun only => only stored member scope isOf).symm

/-- Clearing a scope leaves the scopes that have rows. -/
theorem hasOnly_softDelete_iff {now : Instant} :
    (table.softDelete scope now).HasOnly allowed ↔ table.HasOnly allowed :=
  hasOnly_map_iff (isOf_softDeleted now)

/-- After a sweep no other scopes have rows. -/
theorem HasOnly.purge (only : table.HasOnly allowed) (now : Instant) (ids : List OverrideId) :
    (table.purge now ids).2.HasOnly allowed := by
  induction ids generalizing table with
  | nil => exact only
  | cons id rest inductionHypothesis =>
      exact inductionHypothesis fun row member => only row (List.mem_filter.mp member).1

end OverrideTable

end Switchboard
