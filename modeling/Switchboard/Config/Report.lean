import Switchboard.Config.Basic
import Switchboard.Json.Basic

namespace Switchboard

/-!
# Reports of configurations

The JSON forms of a configuration and of what is wrong with one.  Numbers are shown
as decimal texts, since they may be larger than readers of JSON take.
-/

namespace FailurePolicy

/-- The word for a policy in reports. -/
def reported : FailurePolicy → String
  | .propagate => "Propagate"
  | .treatAsAbsent => "TreatAsAbsent"

end FailurePolicy

namespace ConfigError

/-- The name of the cause. -/
def name : ConfigError → String
  | .unreadable => "FileRead"
  | .malformed => "TomlParse"
  | _ => "InvalidValue"

/-- The cause with its text, where it has one. -/
def report (error : ConfigError) : Json :=
  .sparse [("error", some (.text error.name)), ("message", error.message?.map Json.text)]

end ConfigError

namespace Config

/-- A number as a decimal text. -/
def number (value : Nat) : Json :=
  .text (String.ofList (Text.decimal value))

/-- All settings. -/
def report (config : Config) : Json :=
  .record
    [("database", .record [("url", .text config.database.url)]),
      ("cache", .record
        [("ttlMs", number config.cache.lifetime),
          ("maxEntries", number config.cache.maxEntries)]),
      ("store", .record
        [("timeoutMs", number config.store.timeout),
          ("overrideFailure", .text config.store.overrideFailure.reported)]),
      ("exposure", .record
        [("maxBatchSize", number config.exposure.maxBatchSize),
          ("flushIntervalMs", number config.exposure.flushInterval),
          ("maxQueueSize", number config.exposure.maxQueueSize)]),
      ("bus", .record
        [("channelCapacity", number config.bus.channelCapacity),
          ("topic", .text config.bus.topic)]),
      ("platform", .record
        [("platformOnlyFlags", .array (config.platform.platformOnlyFlags.map Json.text))]),
      ("evaluation", .record
        [("defaultEnvironment", .text config.evaluation.defaultEnvironment)]),
      ("logging", .record
        [("level", .text config.logging.level), ("json", .bool config.logging.json)])]

end Config

end Switchboard
