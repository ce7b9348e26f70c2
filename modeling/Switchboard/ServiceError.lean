import Switchboard.Validation

namespace Switchboard

/-!
# Service errors

The causes for which an operation of the service fails.  Some mean that the cache,
the stores or the bus are out of reach; the others refuse the request or report
something that cannot be.
-/

/-- What went wrong inside the database. -/
inductive DatabaseFault where
  /-- No connection became free in time. -/
  | exhausted
  /-- Anything that the database words itself. -/
  | unworded
  deriving DecidableEq, Repr

/-- The causes for which an operation fails. -/
inductive ServiceError where
  | database (fault : DatabaseFault)
  | serialization
  | validation (cause : ValidationError)
  | versionConflict (environment key : String) (expected : Int64) (actual : Option Int64)
  | forbidden (key : String)
  | timeout (operation : String)
  | cache (detail : String)
  | bus (detail : String)
  | internal (detail : String)
  deriving DecidableEq, Repr

namespace ServiceError

/-- A stored version, or the word for its absence. -/
def storedVersion : Option Int64 → String
  | none => "None"
  | some version => "Some(" ++ String.ofList (Text.signedDecimal version.toInt) ++ ")"

/-- How the complaint about the URL of a database begins; the rest is not ours. -/
def invalidUrl : String :=
  "Invalid database URL"

/-- The text that a caller sees, where it does not belong to a library below. -/
def message? : ServiceError → Option String
  | .database .exhausted =>
      some "Database error: pool timed out while waiting for an open connection"
  | .database .unworded => none
  | .serialization => none
  | .validation cause => some ("Validation failed: " ++ cause.message)
  | .versionConflict environment key expected actual =>
      some ("Version conflict on " ++ environment ++ "/" ++ key ++ ": expected " ++
        String.ofList (Text.signedDecimal expected.toInt) ++ ", stored " ++ storedVersion actual)
  | .forbidden key => some ("Forbidden: " ++ key ++ " is a platform-only flag")
  | .timeout operation => some ("Timed out during " ++ operation)
  | .cache detail => some ("Cache error: " ++ detail)
  | .bus detail => some ("Bus error: " ++ detail)
  | .internal detail =>
      if invalidUrl.toList.isPrefixOf detail.toList then none else some ("Internal: " ++ detail)

/-- Whether the write met another version than it expected. -/
def isConflict : ServiceError → Bool
  | .versionConflict .. => true
  | _ => false

/-- Whether the caller may not do what it asked for. -/
def isForbidden : ServiceError → Bool
  | .forbidden _ => true
  | _ => false

/-- Whether the cache, a store or the bus is out of reach. -/
def isInfrastructure : ServiceError → Bool
  | .database _ | .timeout _ | .cache _ | .bus _ => true
  | _ => false

end ServiceError

end Switchboard
