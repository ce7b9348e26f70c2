import Switchboard.Config.Basic

namespace Switchboard

/-!
# Overlays

An overlay holds what one source sets, and leaves the rest to the sources below it.
Overlays are merged from the lowest to the highest, and what none of them sets gets
its default.  Sources give intervals in words of 64 bits.
-/

/-- What a source sets about the database. -/
structure DatabaseOverlay where
  url : Option String := none
  deriving DecidableEq, Repr

/-- What a source sets about the cache. -/
structure CacheOverlay where
  lifetimeSeconds : Option UInt64 := none
  maxEntries : Option UInt64 := none
  deriving DecidableEq, Repr

/-- What a source sets about calls of the stores. -/
structure StoreOverlay where
  timeoutMilliseconds : Option UInt64 := none
  overrideFailure : Option FailurePolicy := none
  deriving DecidableEq, Repr

/-- What a source sets about exposure records. -/
structure ExposureOverlay where
  maxBatchSize : Option UInt64 := none
  flushIntervalSeconds : Option UInt64 := none
  maxQueueSize : Option UInt64 := none
  deriving DecidableEq, Repr

/-- What a source sets about the bus. -/
structure BusOverlay where
  channelCapacity : Option UInt64 := none
  topic : Option String := none
  deriving DecidableEq, Repr

/-- What a source sets about guarded flags. -/
structure PlatformOverlay where
  platformOnlyFlags : Option (List String) := none
  deriving DecidableEq, Repr

/-- What a source sets about evaluations. -/
structure EvaluationOverlay where
  defaultEnvironment : Option String := none
  deriving DecidableEq, Repr

/-- What a source sets about logging. -/
structure LoggingOverlay where
  level : Option String := none
  json : Option Bool := none
  deriving DecidableEq, Repr

/-- What a source sets; a section that it leaves out is the same as one with nothing set. -/
structure Overlay where
  database : Option DatabaseOverlay := none
  cache : Option CacheOverlay := none
  store : Option StoreOverlay := none
  exposure : Option ExposureOverlay := none
  bus : Option BusOverlay := none
  platform : Option PlatformOverlay := none
  evaluation : Option EvaluationOverlay := none
  logging : Option LoggingOverlay := none
  deriving DecidableEq, Repr

namespace DatabaseOverlay

/-- Lay a section over another. -/
def merge (below above : DatabaseOverlay) : DatabaseOverlay where
  url := above.url.or below.url

/-- Give what is not set its default. -/
def resolve (overlay : DatabaseOverlay) : DatabaseConfig where
  url := overlay.url.getD ({} : DatabaseConfig).url

end DatabaseOverlay

namespace CacheOverlay

/-- Lay a section over another. -/
def merge (below above : CacheOverlay) : CacheOverlay where
  lifetimeSeconds := above.lifetimeSeconds.or below.lifetimeSeconds
  maxEntries := above.maxEntries.or below.maxEntries

/-- Give what is not set its default. -/
def resolve (overlay : CacheOverlay) : CacheConfig where
  lifetime := overlay.lifetimeSeconds.elim ({} : CacheConfig).lifetime (·.toNat * 1000)
  maxEntries := overlay.maxEntries.elim ({} : CacheConfig).maxEntries UInt64.toNat

end CacheOverlay

namespace StoreOverlay

/-- Lay a section over another. -/
def merge (below above : StoreOverlay) : StoreOverlay where
  timeoutMilliseconds := above.timeoutMilliseconds.or below.timeoutMilliseconds
  overrideFailure := above.overrideFailure.or below.overrideFailure

/-- Give what is not set its default. -/
def resolve (overlay : StoreOverlay) : StoreConfig where
  timeout := overlay.timeoutMilliseconds.elim ({} : StoreConfig).timeout UInt64.toNat
  overrideFailure := overlay.overrideFailure.getD ({} : StoreConfig).overrideFailure

end StoreOverlay

namespace ExposureOverlay

/-- Lay a section over another. -/
def merge (below above : ExposureOverlay) : ExposureOverlay where
  maxBatchSize := above.maxBatchSize.or below.maxBatchSize
  flushIntervalSeconds := above.flushIntervalSeconds.or below.flushIntervalSeconds
  maxQueueSize := above.maxQueueSize.or below.maxQueueSize

/-- Give what is not set its default. -/
def resolve (overlay : ExposureOverlay) : QueueSettings where
  maxBatchSize := overlay.maxBatchSize.elim ({} : QueueSettings).maxBatchSize UInt64.toNat
  flushInterval :=
    overlay.flushIntervalSeconds.elim ({} : QueueSettings).flushInterval (·.toNat * 1000)
  maxQueueSize := overlay.maxQueueSize.elim ({} : QueueSettings).maxQueueSize UInt64.toNat

end ExposureOverlay

namespace BusOverlay

/-- Lay a section over another. -/
def merge (below above : BusOverlay) : BusOverlay where
  channelCapacity := above.channelCapacity.or below.channelCapacity
  topic := above.topic.or below.topic

/-- Give what is not set its default. -/
def resolve (overlay : BusOverlay) : BusConfig where
  channelCapacity := overlay.channelCapacity.elim ({} : BusConfig).channelCapacity UInt64.toNat
  topic := overlay.topic.getD ({} : BusConfig).topic

end BusOverlay

namespace PlatformOverlay

/-- Lay a section over another; a list replaces a list. -/
def merge (below above : PlatformOverlay) : PlatformOverlay where
  platformOnlyFlags := above.platformOnlyFlags.or below.platformOnlyFlags

/-- Give what is not set its default. -/
def resolve (overlay : PlatformOverlay) : PlatformConfig where
  platformOnlyFlags := overlay.platformOnlyFlags.getD ({} : PlatformConfig).platformOnlyFlags

end PlatformOverlay

namespace EvaluationOverlay

/-- Lay a section over another. -/
def merge (below above : EvaluationOverlay) : EvaluationOverlay where
  defaultEnvironment := above.defaultEnvironment.or below.defaultEnvironment

/-- Give what is not set its default. -/
def resolve (overlay : EvaluationOverlay) : EvaluationConfig where
  defaultEnvironment :=
    overlay.defaultEnvironment.getD ({} : EvaluationConfig).defaultEnvironment

end EvaluationOverlay

namespace LoggingOverlay

/-- Lay a section over another. -/
def merge (below above : LoggingOverlay) : LoggingOverlay where
  level := above.level.or below.level
  json := above.json.or below.json

/-- Give what is not set its default. -/
def resolve (overlay : LoggingOverlay) : LoggingConfig where
  level := overlay.level.getD ({} : LoggingConfig).level
  json := overlay.json.getD ({} : LoggingConfig).json

end LoggingOverlay

namespace Overlay

/-- Lay an overlay over another, section by section. -/
def merge (below above : Overlay) : Overlay where
  database := below.database.merge DatabaseOverlay.merge above.database
  cache := below.cache.merge CacheOverlay.merge above.cache
  store := below.store.merge StoreOverlay.merge above.store
  exposure := below.exposure.merge ExposureOverlay.merge above.exposure
  bus := below.bus.merge BusOverlay.merge above.bus
  platform := below.platform.merge PlatformOverlay.merge above.platform
  evaluation := below.evaluation.merge EvaluationOverlay.merge above.evaluation
  logging := below.logging.merge LoggingOverlay.merge above.logging

/-- The overlays of a list as one, the first of them at the bottom. -/
def mergeAll (overlays : List Overlay) : Overlay :=
  overlays.foldl merge {}

/-- Give what is not set its default. -/
def resolve (overlay : Overlay) : Config where
  database := (overlay.database.getD {}).resolve
  cache := (overlay.cache.getD {}).resolve
  store := (overlay.store.getD {}).resolve
  exposure := (overlay.exposure.getD {}).resolve
  bus := (overlay.bus.getD {}).resolve
  platform := (overlay.platform.getD {}).resolve
  evaluation := (overlay.evaluation.getD {}).resolve
  logging := (overlay.logging.getD {}).resolve

/-- The configuration of an overlay, if it passes the checks. -/
def finalize (overlay : Overlay) : Except ConfigError Config := do
  overlay.resolve.check
  return overlay.resolve

end Overlay

end Switchboard
