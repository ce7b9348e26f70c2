import Switchboard.Bus
import Switchboard.ServiceError
import Switchboard.Store.Exposures
import Switchboard.Wire.Invalidation
import Switchboard.Wire.Resolution

namespace Switchboard

/-!
# Reports

The JSON forms of what is only ever shown: errors with their class, resolutions with
their names, deliveries of the bus, stored and traced exposure records.
-/

namespace ValidationError

/-- The name of the cause. -/
def name : ValidationError → String
  | .emptyKeys => "EmptyKeys"
  | .invalidFlagKey _ => "InvalidFlagKey"
  | .invalidEnvironment _ => "InvalidEnvironment"
  | .emptyScopeId => "EmptyScopeId"
  | .percentageOutOfRange _ => "PercentageOutOfRange"
  | .invertedTimeWindow => "InvertedTimeWindow"

/-- The cause with its text. -/
def report (error : ValidationError) : Json :=
  .record [("error", .text error.name), ("message", .text error.message)]

end ValidationError

namespace ServiceError

/-- The name of the cause. -/
def name : ServiceError → String
  | .database _ => "Database"
  | .serialization => "Serialization"
  | .validation _ => "Validation"
  | .versionConflict .. => "VersionConflict"
  | .forbidden _ => "Forbidden"
  | .timeout _ => "Timeout"
  | .cache _ => "Cache"
  | .bus _ => "Bus"
  | .internal _ => "Internal"

/-- The cause with its classes, and with its text where it has one. -/
def report (error : ServiceError) : Json :=
  .sparse
    [("error", some (.text error.name)),
      ("conflict", some (.bool error.isConflict)),
      ("forbidden", some (.bool error.isForbidden)),
      ("infrastructure", some (.bool error.isInfrastructure)),
      ("message", error.message?.map Json.text)]

end ServiceError

namespace Resolution

/-- A resolution with both names of its reason. -/
def report (resolution : Resolution) : List (String × Json) :=
  [("value", .bool resolution.value),
    ("reason", Wire.toJson resolution.reason),
    ("label", .text resolution.reason.label),
    ("display", .text resolution.reason.display)]

end Resolution

namespace Delivery

/-- A delivery, unless it is none. -/
def report? : Delivery → Option Json
  | .event news => some (Wire.toJson news)
  | .missed count => some (.record [("lagged", .nat count)])
  | .closed => some (.text "closed")
  | .nothing => none

end Delivery

namespace ExposureRow

/-- The columns of a row. -/
def report (row : ExposureRow) : Json :=
  .array
    [.nat row.id, .text row.environment, .text row.key, .bool row.value, .text row.reason,
      Wire.optional row.userId, Wire.optional row.tenantId, .text row.timestamp]

end ExposureRow

namespace Exposure

/-- The fields of the event by which a record is traced. -/
def traceReport (record : Exposure) : Json :=
  .sparse
    [("message", some (.text "flag exposure")),
      ("environment", some (.text record.environment)),
      ("flag_key", some (.text record.key)),
      ("value", some (.bool record.value)),
      ("reason", some (.text record.reason.display)),
      ("user_id", record.userId.map Json.text),
      ("tenant_id", record.tenantId.map Json.text),
      ("timestamp", some (.text record.timestamp.toLog))]

end Exposure

end Switchboard
