import Switchboard.Config.Overlay
import Switchboard.Text.Blank
import Switchboard.Text.Digits
import Switchboard.Text.Parts

namespace Switchboard

/-!
# Overlays from variables

What the variables of the process set.  A variable with an empty text sets nothing.
-/

/-- The variables and their texts. -/
abbrev Variables := List (String × String)

namespace Variables

/-- The text of a variable that is not empty. -/
def get? (assigned : Variables) (name : String) : Option String :=
  (assigned.lookup name).filter fun text => text != ""

/-- Decimal digits and no sign, as a number of 64 bits. -/
def digitsWord? (digits : List Char) : Option UInt64 :=
  if digits != [] && digits.all Char.isDigit && Text.decimalValue digits < UInt64.size then
    some (UInt64.ofNat (Text.decimalValue digits))
  else none

/-- A number of 64 bits, perhaps behind a plus sign. -/
def word? (text : String) : Option UInt64 :=
  match text.toList with
  | '+' :: digits => digitsWord? digits
  | digits => digitsWord? digits

/-- The number in a variable. -/
def getWord (assigned : Variables) (name : String) :
    Except ConfigError (Option UInt64) :=
  match assigned.get? name with
  | none => .ok none
  | some text =>
      match word? text with
      | some value => .ok (some value)
      | none => .error (.notANumber name text)

/-- The failure policy that a variable names. -/
def getPolicy (assigned : Variables) (name : String) :
    Except ConfigError (Option FailurePolicy) :=
  match assigned.get? name with
  | none => .ok none
  | some text =>
      match FailurePolicy.ofName? text with
      | some policy => .ok (some policy)
      | none => .error (.unknownPolicy name text)

/-- The items of a list between commas, without blanks around them and without empty ones. -/
def listItems (text : String) : List String :=
  (((Text.parts ',' text.toList).map Text.trim).filter (· != [])).map String.ofList

/-- Whether a text switches something on. -/
def isOn (text : String) : Bool :=
  String.ofList (text.toList.map Char.toLower) == "true" || text == "1"

end Variables

namespace Overlay

/-- What the variables set. -/
def ofVariables (assigned : Variables) : Except ConfigError Overlay := do
  let overrideFailure ← assigned.getPolicy "LOOM_TOGGLES_OVERRIDE_FAILURE"
  let lifetimeSeconds ← assigned.getWord "LOOM_TOGGLES_CACHE_TTL_SECS"
  let maxEntries ← assigned.getWord "LOOM_TOGGLES_CACHE_MAX_ENTRIES"
  let timeoutMilliseconds ← assigned.getWord "LOOM_TOGGLES_STORE_TIMEOUT_MS"
  let maxBatchSize ← assigned.getWord "LOOM_TOGGLES_EXPOSURE_MAX_BATCH_SIZE"
  let flushIntervalSeconds ← assigned.getWord "LOOM_TOGGLES_EXPOSURE_FLUSH_INTERVAL_SECS"
  let maxQueueSize ← assigned.getWord "LOOM_TOGGLES_EXPOSURE_MAX_QUEUE_SIZE"
  let channelCapacity ← assigned.getWord "LOOM_TOGGLES_BUS_CHANNEL_CAPACITY"
  let platformOnlyFlags :=
    (assigned.get? "LOOM_TOGGLES_PLATFORM_ONLY_FLAGS").map Variables.listItems
  return {
    database := some { url := assigned.get? "LOOM_TOGGLES_DATABASE_URL" }
    cache := some { lifetimeSeconds, maxEntries }
    store := some { timeoutMilliseconds, overrideFailure }
    exposure := some { maxBatchSize, flushIntervalSeconds, maxQueueSize }
    bus := some { channelCapacity, topic := assigned.get? "LOOM_TOGGLES_BUS_TOPIC" }
    platform := some { platformOnlyFlags }
    evaluation :=
      some { defaultEnvironment := assigned.get? "LOOM_TOGGLES_DEFAULT_ENVIRONMENT" }
    logging :=
      some {
        level := assigned.get? "LOOM_TOGGLES_LOG_LEVEL"
        json := (assigned.get? "LOOM_TOGGLES_LOG_JSON").map Variables.isOn
      }
  }

end Overlay

end Switchboard
