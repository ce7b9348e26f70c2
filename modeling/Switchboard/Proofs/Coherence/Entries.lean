import Switchboard.Proofs.Coherence.Members
import Switchboard.Proofs.Layer.Freshness
import Switchboard.Proofs.Layer.Tasks

namespace Switchboard.Layer.Entry

open Backing Cluster

/-!
# Entries

What is stored of one flag or one scope, and the text that a cache holds for it.  A text is
fresh when it cannot be read or says what the store says, and it stays fresh until the
store says something else.
-/

/-- The environment and the key are such as requests are checked for. -/
def IsValid : Entry → Prop
  | flag environment key => ValidNames environment key
  | override scope => scope.HasValidNames

/-- The cache tells the entry from every other one that has a row. -/
def IsApart (database : Database) : Entry → Prop
  | flag environment key => ValidNames environment key
  | override scope => database.overrides.HasOnly scope.IsToldFrom

/-- What can be read of a cached text is what the store says, whenever it is asked. -/
def IsFresh (database : Database) (text? : Option String) : Entry → Prop
  | flag environment key =>
      ∀ text flag, text? = some text → Wire.decode? text = some flag →
        database.flags.read environment key = .ok (some flag)
  | override scope =>
      ∀ now : Instant, now.IsStorable →
        ∀ text (value : OverrideValue), text? = some text → Wire.decode? text = some value →
          database.overrides.find scope now = .ok (if value.isActive now then some value else none)

/-- The store says the same before and after. -/
def SameRow (before after : Database) : Entry → Prop
  | flag environment key =>
      after.flags.read environment key = before.flags.read environment key
  | override scope =>
      ∀ now, after.overrides.find scope now = before.overrides.find scope now

variable {entry : Entry} {before after : Database}

/-- Nothing is fresh. -/
theorem isFresh_none (database : Database) (entry : Entry) : entry.IsFresh database none := by
  cases entry with
  | flag environment key =>
      intro text flag kept
      cases kept
  | override scope =>
      intro now _ text value kept
      cases kept

/-- A text that stays is fresh as long as the row stays. -/
theorem IsFresh.mono {text? later? : Option String}
    (fresh : entry.IsFresh before text?)
    (same : entry.SameRow before after)
    (losing : ∀ text, later? = some text → text? = some text) :
    entry.IsFresh after later? := by
  cases entry with
  | flag environment key =>
      intro text flag kept decoded
      exact same.trans (fresh text flag (losing text kept) decoded)
  | override scope =>
      intro now storable text value kept decoded
      exact (same now).trans (fresh now storable text value (losing text kept) decoded)

theorem sameRow_refl (database : Database) (entry : Entry) : entry.SameRow database database := by
  cases entry with
  | flag environment key => rfl
  | override scope => exact fun _ => rfl

/-- An entry is apart from what has rows now when it is apart from what has rows later. -/
theorem IsApart.of_hasOnly
    (later : entry.IsApart after)
    (rows : ∀ allowed, after.overrides.HasOnly allowed → before.overrides.HasOnly allowed) :
    entry.IsApart before := by
  cases entry with
  | flag environment key => exact later
  | override scope => exact rows _ later

/-- A write of one flag changes no other entry. -/
theorem sameRow_apply {database : Database} {write : FlagWrite} (expected : Option Int64)
    (now : Instant)
    (different : entry.cacheKey ≠ flagCacheKey write.environment write.key) :
    entry.SameRow database
      { database with flags := (database.flags.apply write expected now).2 } := by
  cases entry with
  | flag environment key =>
      apply FlagTable.read_apply_other
      rintro ⟨rfl, rfl⟩
      exact different rfl
  | override scope => exact fun _ => rfl

/-- A new value of one scope changes no other entry. -/
theorem sameRow_upsert {database : Database} {scope : Scope} (id : OverrideId) (value : Bool)
    (expiresAt : Option Instant)
    (now : Instant)
    (different : entry.cacheKey ≠ overrideCacheKey scope) :
    entry.SameRow database
      { database with
        overrides := (database.overrides.upsert id scope value expiresAt now).2 } := by
  cases entry with
  | flag environment key => rfl
  | override other =>
      intro readAt
      apply OverrideTable.find_upsert_other
      rintro rfl
      exact different rfl

/-- Clearing one scope changes no other entry. -/
theorem sameRow_softDelete {database : Database} {scope : Scope} (now : Instant)
    (different : entry.cacheKey ≠ overrideCacheKey scope) :
    entry.SameRow database
      { database with overrides := database.overrides.softDelete scope now } := by
  cases entry with
  | flag environment key => rfl
  | override other =>
      intro readAt
      apply OverrideTable.find_softDelete_other
      rintro rfl
      exact different rfl

section Reads

variable {place : Nat} {earlier later : World}

/-- What a read of a flag adds to the own cache is fresh. -/
theorem isFresh_of_getFlag {environment key : String}
    (apart : entry.IsApart earlier.database)
    (leaves :
      (member place).Quiet earlier later ∨
        ∃ flag, earlier.database.flags.read environment key = .ok (some flag) ∧
          (member place).Fills (flagCacheKey environment key) (Wire.encode flag) earlier later)
    (fresh : entry.IsFresh earlier.database (earlier.held place entry.cacheKey)) :
    entry.IsFresh later.database (later.held place entry.cacheKey) := by
  cases entry with
  | flag otherEnvironment otherKey => exact flagIsFresh_of_getFlag apart leaves fresh
  | override scope =>
      exact fun now storable => overrideIsFresh_of_getFlag leaves (fresh now storable)

/-- What a read of an override adds to the own cache is fresh. -/
theorem isFresh_of_getOverride {scope : Scope} {readAt : Instant}
    (sound : earlier.database.overrides.IsSound)
    (apart : entry.IsApart earlier.database)
    (leaves :
      (member place).Quiet earlier later ∨
        ∃ value, earlier.database.overrides.find scope readAt = .ok (some value) ∧
          (member place).Fills (overrideCacheKey scope) (Wire.encode value) earlier later)
    (fresh : entry.IsFresh earlier.database (earlier.held place entry.cacheKey)) :
    entry.IsFresh later.database (later.held place entry.cacheKey) := by
  cases entry with
  | flag environment key => exact flagIsFresh_of_getOverride leaves fresh
  | override other =>
      exact fun now storable =>
        overrideIsFresh_of_getOverride leaves sound apart storable (fresh now storable)

end Reads

end Switchboard.Layer.Entry
