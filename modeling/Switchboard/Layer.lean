import Switchboard.Program
import Switchboard.Wire.Override
import Switchboard.Wire.Targeting

namespace Switchboard

/-!
# Cached storage

Reads look into the cache first and fill it with what the store has; absence is not
cached.  Writes go to the store, then drop the cache entry, then announce the news.
A cache that fails makes reads go to the store.  A write tells that its entry could
not be dropped, but only after the news went out; news that could not be published
are only counted.
-/

/-- The topic of the news and the milliseconds for which entries are cached. -/
structure Layer where
  topic : String := Invalidation.defaultTopic
  lifetime : Nat := 30000
  deriving DecidableEq, Repr

/-- What a cache entry holds. -/
inductive EntryKind where
  | flag
  | override
  deriving DecidableEq, Repr

/-- The name under which lookups of a kind are counted. -/
def EntryKind.label : EntryKind → String
  | .flag => "flag"
  | .override => "override"

/-- How a lookup in the cache ended. -/
inductive LookupOutcome where
  | hit
  | miss
  | error
  deriving DecidableEq, Repr

/-- The name under which lookups of an outcome are counted. -/
def LookupOutcome.label : LookupOutcome → String
  | .hit => "hit"
  | .miss => "miss"
  | .error => "error"

namespace Layer

/-- Count a lookup. -/
def countLookup (kind : EntryKind) (outcome : LookupOutcome) : Operation Unit :=
  Operation.count ⟨.cacheLookups, [kind.label, outcome.label]⟩

/-- Drop an entry; failure to do so is no failure. -/
def evict (cacheKey : String) : Operation Unit := do
  let _ ← (Operation.call (.cacheDelete cacheKey)).attempt
  return ()

/-- The value of an entry; one that cannot be read is dropped. -/
def cached (α : Type) [Wire α] (kind : EntryKind) (cacheKey : String) : Operation (Option α) := do
  match ← (Operation.call (.cacheGet cacheKey)).attempt with
  | .error _ =>
      countLookup kind .error
      return none
  | .ok (none : Option String) =>
      countLookup kind .miss
      return none
  | .ok (some text) =>
      match Wire.decode? text with
      | some value =>
          countLookup kind .hit
          return some value
      | none =>
          countLookup kind .error
          evict cacheKey
          return none

/-- Cache a value; failure to do so is no failure. -/
def populate [Wire α] (layer : Layer) (cacheKey : String) (value : α) : Operation Unit := do
  let _ ← (Operation.call (.cacheSet cacheKey (Wire.encode value) layer.lifetime)).attempt
  return ()

/-- Drop the entry of what was written, then announce the news. -/
def invalidate (layer : Layer) (cacheKey : String) (event : Invalidation) : Operation Unit := do
  let dropped ← (Operation.call (.cacheDelete cacheKey)).attempt
  match ← (Operation.call (.publish layer.topic event)).attempt with
  | .ok _ => Operation.count ⟨.invalidationsPublished, [event.eventType]⟩
  | .error _ => Operation.count ⟨.invalidationFailures, []⟩
  match dropped with
  | .ok _ => return ()
  | .error error => throw error

/-- The flag of an environment and a key. -/
def getFlag (layer : Layer) (environment key : String) : Operation (Option Flag) := do
  let cacheKey := flagCacheKey environment key
  match ← cached Flag .flag cacheKey with
  | some flag => return some flag
  | none =>
      let found : Option Flag ← Operation.call (.readFlag environment key)
      match found with
      | some flag =>
          layer.populate cacheKey flag
          return some flag
      | none => return none

/-- The value that the override of a scope has at an instant. -/
def getOverrideAt (layer : Layer) (scope : Scope) (now : Instant) :
    Operation (Option OverrideValue) := do
  let cacheKey := overrideCacheKey scope
  match ← cached OverrideValue .override cacheKey with
  | some state =>
      if state.isActive now then
        return some state
      else
        evict cacheKey
        return none
  | none =>
      let found : Option OverrideValue ← Operation.call (.findOverride scope now)
      match found with
      | some state =>
          layer.populate cacheKey state
          return some state
      | none => return none

/-- The value that the override of a scope has when the clock is read. -/
def getOverride (layer : Layer) (scope : Scope) : Operation (Option OverrideValue) := do
  let now : Instant ← Operation.ask .readClock
  layer.getOverrideAt scope now

/-- Report that a write met another version than it expected. -/
def rejectWrite (write : FlagWrite) (expected : Option Int64) : Operation Flag := do
  let actual : Option Int64 ← Operation.call (.readFlagVersion write.environment write.key)
  Operation.count ⟨.versionConflicts, []⟩
  throw (.versionConflict write.environment write.key (expected.getD 0) actual)

/-- Write a flag whose version is the expected one. -/
def writeFlag (layer : Layer) (write : FlagWrite) (expected : Option Int64) : Operation Flag := do
  let written : Option Flag ← Operation.call (.applyFlagWrite write expected)
  match written with
  | none => rejectWrite write expected
  | some flag =>
      let now : Instant ← Operation.ask .readClock
      layer.invalidate (flagCacheKey flag.environment flag.key)
        (.flagUpdated flag.environment flag.key flag.version now)
      return flag

/-- Announce that the override of a scope changed. -/
def announceOverride (layer : Layer) (scope : Scope) : Operation Unit := do
  let now : Instant ← Operation.ask .readClock
  layer.invalidate (overrideCacheKey scope) (.overrideChanged scope now)

/-- Give the override of a scope a value. -/
def upsertOverride
    (layer : Layer)
    (scope : Scope)
    (value : Bool)
    (expiresAt : Option Instant) :
    Operation Override := do
  let stored : Override ← Operation.call (.upsertOverride scope value expiresAt)
  layer.announceOverride scope
  return stored

/-- Clear the override of a scope. -/
def clearOverride (layer : Layer) (scope : Scope) : Operation Unit := do
  let _ ← Operation.call (.clearOverride scope)
  layer.announceOverride scope

/-- Remove stored overrides that are cleared or expired, and count them. -/
def sweep (now : Instant) (limit : Nat) : Operation Nat := do
  let listed : Except ServiceError (List Override) ← Operation.ask (.listDead now limit)
  let dead ← ExceptT.mk (pure listed)
  if dead.isEmpty then
    return 0
  else
    let removed : Except ServiceError Nat ← Operation.ask (.purge (dead.map Override.id) now)
    ExceptT.mk (pure removed)

end Layer

end Switchboard
