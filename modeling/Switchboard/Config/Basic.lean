import Switchboard.Exposure.Queue
import Switchboard.Invalidation
import Switchboard.Resolver

namespace Switchboard

/-!
# Configurations

Everything that an operator may set, with the defaults, and the checks that a
configuration must pass before anything is built from it.  Durations are in
milliseconds.
-/

/-- Where the rows are stored. -/
structure DatabaseConfig where
  url : String := "sqlite:./loom-toggles.db"
  deriving DecidableEq, Repr

/-- How long the cache keeps an entry, and how many it keeps. -/
structure CacheConfig where
  lifetime : Nat := 30000
  maxEntries : Nat := 10000
  deriving DecidableEq, Repr

/-- How long a call may take, and what an override that cannot be read means. -/
structure StoreConfig where
  timeout : Nat := 500
  overrideFailure : FailurePolicy := .propagate
  deriving DecidableEq, Repr

/-- How many events wait for a slow receiver, and the topic of the events. -/
structure BusConfig where
  channelCapacity : Nat := 256
  topic : String := Invalidation.defaultTopic
  deriving DecidableEq, Repr

/-- The flags whose overrides are guarded. -/
structure PlatformConfig where
  platformOnlyFlags : List String := Switchboard.platformOnlyFlags
  deriving DecidableEq, Repr

/-- The environment of evaluations that name none. -/
structure EvaluationConfig where
  defaultEnvironment : String := "prod"
  deriving DecidableEq, Repr

/-- How much is logged, and in which form. -/
structure LoggingConfig where
  level : String := "info"
  json : Bool := false
  deriving DecidableEq, Repr

/-- A complete configuration. -/
structure Config where
  database : DatabaseConfig := {}
  cache : CacheConfig := {}
  store : StoreConfig := {}
  exposure : QueueSettings := {}
  bus : BusConfig := {}
  platform : PlatformConfig := {}
  evaluation : EvaluationConfig := {}
  logging : LoggingConfig := {}
  deriving DecidableEq, Repr

/-- The causes for which there is no configuration. -/
inductive ConfigError where
  /-- A file is there but does not hold text. -/
  | unreadable
  /-- A file is no document, or something in it has the wrong type. -/
  | malformed
  /-- A variable that must hold a number holds something else. -/
  | notANumber (name : String) (written : String)
  /-- A variable that must hold the name of a failure policy holds something else. -/
  | unknownPolicy (name : String) (written : String)
  /-- A setting that must be positive is zero. -/
  | notPositive (setting : String)
  /-- The queue of exposure records has less room than one batch needs. -/
  | queueTooSmall
  /-- The default environment is no environment name. -/
  | invalidEnvironment
  deriving DecidableEq, Repr

namespace ConfigError

/-- The setting or variable that is wrong and what is wrong with it, if a value is to blame. -/
def complaint? : ConfigError → Option (String × String)
  | .unreadable => none
  | .malformed => none
  | .notANumber name written =>
      some (name, "invalid integer value '" ++ written ++ "'")
  | .unknownPolicy name written => some (name, FailurePolicy.unknownName written)
  | .notPositive setting => some (setting, "must be greater than zero")
  | .queueTooSmall =>
      some ("exposure.max_queue_size", "must be at least exposure.max_batch_size")
  | .invalidEnvironment =>
      some ("evaluation.default_environment", "must be lowercase alphanumeric with underscores")

/-- The text that an operator sees, where it does not belong to a library below. -/
def message? (error : ConfigError) : Option String :=
  error.complaint?.map fun (setting, complaint) =>
    "invalid value for " ++ setting ++ ": " ++ complaint

end ConfigError

/-- Refuse a setting that is zero. -/
def checkPositive (setting : String) (value : Nat) : Except ConfigError Unit :=
  if value = 0 then .error (.notPositive setting) else .ok ()

namespace Config

/-- Refuse a configuration that fails one of the checks, the first of them in this order. -/
def check (config : Config) : Except ConfigError Unit := do
  checkPositive "cache.ttl_secs" config.cache.lifetime
  checkPositive "store.timeout_ms" config.store.timeout
  checkPositive "exposure.max_batch_size" config.exposure.maxBatchSize
  if config.exposure.maxQueueSize < config.exposure.maxBatchSize then
    throw .queueTooSmall
  checkPositive "bus.channel_capacity" config.bus.channelCapacity
  if !isEnvironment config.evaluation.defaultEnvironment then
    throw .invalidEnvironment

end Config

end Switchboard
