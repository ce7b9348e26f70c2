import Switchboard.Config.Overlay
import Switchboard.Toml.Reader

namespace Switchboard

/-!
# Overlays from documents

What a TOML document sets.  A section is a table, or an array with the values of its
settings in their order; what belongs to no known setting is ignored, and a known
setting of the wrong type spoils the document.
-/

namespace Toml

/-- Whether a value may stand for a section. -/
def isSection : Toml → Bool
  | .table .. => true
  | .array _ => true
  | .tables .. => true
  | .dateTime _ => true
  | _ => false

/-- The value of a setting of a section, by its place and its name. -/
def setting (place : Nat) (name : String) : Toml → Option Toml
  | .table _ entries => entries.lookup name
  | .array items => items[place]?
  | .tables earlier last => ((earlier ++ [last])[place]?).map (Toml.table .header)
  | _ => none

/-- Read a value that may be absent. -/
def optional? (read : Toml → Option α) : Option Toml → Option (Option α)
  | none => some none
  | some value => (read value).map some

/-- A text. -/
def text? : Toml → Option String
  | .string value => some value
  | _ => none

/-- A truth value. -/
def truth? : Toml → Option Bool
  | .boolean value => some value
  | _ => none

/-- A number that is not negative. -/
def word? : Toml → Option UInt64
  | .integer value => if 0 ≤ value then some (UInt64.ofNat value.toNat) else none
  | _ => none

/-- A list of texts. -/
def texts? : Toml → Option (List String)
  | .array items => items.mapM text?
  | _ => none

/-- Whether a value holds nothing. -/
def isVoid : Toml → Bool
  | .array [] => true
  | .table _ [] => true
  | _ => false

/-- A failure policy: its name, or a table with the name as the key of nothing. -/
def policy? : Toml → Option FailurePolicy
  | .string name => FailurePolicy.ofName? name
  | .table _ [(name, value)] => if value.isVoid then FailurePolicy.ofName? name else none
  | _ => none

end Toml

namespace DatabaseOverlay

/-- The section that a value stands for. -/
def ofToml? (part : Toml) : Option DatabaseOverlay := do
  guard part.isSection
  let url ← Toml.optional? Toml.text? (part.setting 0 "url")
  some { url }

end DatabaseOverlay

namespace CacheOverlay

/-- The section that a value stands for. -/
def ofToml? (part : Toml) : Option CacheOverlay := do
  guard part.isSection
  let lifetimeSeconds ← Toml.optional? Toml.word? (part.setting 0 "ttl_secs")
  let maxEntries ← Toml.optional? Toml.word? (part.setting 1 "max_entries")
  some { lifetimeSeconds, maxEntries }

end CacheOverlay

namespace StoreOverlay

/-- The section that a value stands for. -/
def ofToml? (part : Toml) : Option StoreOverlay := do
  guard part.isSection
  let timeoutMilliseconds ← Toml.optional? Toml.word? (part.setting 0 "timeout_ms")
  let overrideFailure ← Toml.optional? Toml.policy? (part.setting 1 "override_failure")
  some { timeoutMilliseconds, overrideFailure }

end StoreOverlay

namespace ExposureOverlay

/-- The section that a value stands for. -/
def ofToml? (part : Toml) : Option ExposureOverlay := do
  guard part.isSection
  let maxBatchSize ← Toml.optional? Toml.word? (part.setting 0 "max_batch_size")
  let flushIntervalSeconds ← Toml.optional? Toml.word? (part.setting 1 "flush_interval_secs")
  let maxQueueSize ← Toml.optional? Toml.word? (part.setting 2 "max_queue_size")
  some { maxBatchSize, flushIntervalSeconds, maxQueueSize }

end ExposureOverlay

namespace BusOverlay

/-- The section that a value stands for. -/
def ofToml? (part : Toml) : Option BusOverlay := do
  guard part.isSection
  let channelCapacity ← Toml.optional? Toml.word? (part.setting 0 "channel_capacity")
  let topic ← Toml.optional? Toml.text? (part.setting 1 "topic")
  some { channelCapacity, topic }

end BusOverlay

namespace PlatformOverlay

/-- The section that a value stands for. -/
def ofToml? (part : Toml) : Option PlatformOverlay := do
  guard part.isSection
  let platformOnlyFlags ← Toml.optional? Toml.texts? (part.setting 0 "platform_only_flags")
  some { platformOnlyFlags }

end PlatformOverlay

namespace EvaluationOverlay

/-- The section that a value stands for. -/
def ofToml? (part : Toml) : Option EvaluationOverlay := do
  guard part.isSection
  let defaultEnvironment ← Toml.optional? Toml.text? (part.setting 0 "default_environment")
  some { defaultEnvironment }

end EvaluationOverlay

namespace LoggingOverlay

/-- The section that a value stands for. -/
def ofToml? (part : Toml) : Option LoggingOverlay := do
  guard part.isSection
  let level ← Toml.optional? Toml.text? (part.setting 0 "level")
  let json ← Toml.optional? Toml.truth? (part.setting 1 "json")
  some { level, json }

end LoggingOverlay

namespace Overlay

/-- What the entries of a document set. -/
def ofEntries? (entries : Toml.Entries) : Option Overlay := do
  let database ← Toml.optional? DatabaseOverlay.ofToml? (entries.lookup "database")
  let cache ← Toml.optional? CacheOverlay.ofToml? (entries.lookup "cache")
  let store ← Toml.optional? StoreOverlay.ofToml? (entries.lookup "store")
  let exposure ← Toml.optional? ExposureOverlay.ofToml? (entries.lookup "exposure")
  let bus ← Toml.optional? BusOverlay.ofToml? (entries.lookup "bus")
  let platform ← Toml.optional? PlatformOverlay.ofToml? (entries.lookup "platform")
  let evaluation ← Toml.optional? EvaluationOverlay.ofToml? (entries.lookup "evaluation")
  let logging ← Toml.optional? LoggingOverlay.ofToml? (entries.lookup "logging")
  some { database, cache, store, exposure, bus, platform, evaluation, logging }

/-- What a document sets. -/
def ofDocument (document : String) : Except ConfigError Overlay :=
  match (Toml.parse document).bind ofEntries? with
  | some overlay => .ok overlay
  | none => .error .malformed

end Overlay

end Switchboard
