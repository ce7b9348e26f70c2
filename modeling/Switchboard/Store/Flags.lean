import Switchboard.Store.Column
import Switchboard.Wire.Targeting

namespace Switchboard

/-!
# Stored flags

One row for each flag.  A write is one statement: it checks the expected version,
raises the stored one and returns the row that it wrote, or it changes nothing.
Rows are decoded when they are read, so a row that was tampered with is an error
of its reader.
-/

/-- A flag as it is stored. -/
structure FlagRow where
  environment : String
  key : String
  enabledDefault : Bool
  rules : String
  version : Int
  lastEditorId : Option String
  createdAt : String
  updatedAt : String
  deriving DecidableEq, Repr

namespace FlagRow

/-- The first number above all versions. -/
def versionBound : Int :=
  9223372036854775808

/-- The version after a write; beyond the bound it stays where it is. -/
def raised (version : Int) : Int :=
  if version < versionBound then version + 1 else version

/-- The version of a row, unless it left the range of versions. -/
def readVersion (row : FlagRow) : Except ServiceError Int64 :=
  if row.version < versionBound then .ok (Int64.ofInt row.version)
  else .error (.database .unworded)

/-- The rules of a row. -/
def readRules (row : FlagRow) : Except ServiceError (List Rule) :=
  match Wire.decode? row.rules with
  | some rules => .ok rules
  | none => .error .serialization

/-- The flag of a row. -/
def decode (row : FlagRow) : Except ServiceError Flag := do
  let version ← row.readVersion
  let rules ← row.readRules
  let createdAt ← storedInstant "created_at" row.createdAt
  let updatedAt ← storedInstant "updated_at" row.updatedAt
  return {
    environment := row.environment
    key := row.key
    enabledDefault := row.enabledDefault
    rules
    version
    lastEditorId := row.lastEditorId
    createdAt
    updatedAt
  }

/-- Whether a row is the one of a flag. -/
def isOf (row : FlagRow) (environment key : String) : Bool :=
  row.environment == environment && row.key == key

/-- The first row of a flag. -/
def first (write : FlagWrite) (now : Instant) : FlagRow where
  environment := write.environment
  key := write.key
  enabledDefault := write.enabledDefault
  rules := Wire.encode write.rules
  version := 1
  lastEditorId := write.lastEditorId
  createdAt := now.toStored
  updatedAt := now.toStored

/-- The row after a write. -/
def overwritten (row : FlagRow) (write : FlagWrite) (now : Instant) : FlagRow :=
  { row with
    enabledDefault := write.enabledDefault
    rules := Wire.encode write.rules
    version := raised row.version
    lastEditorId := write.lastEditorId
    updatedAt := now.toStored }

end FlagRow

/-- The rows of all flags, at most one for each. -/
structure FlagTable where
  rows : List FlagRow := []
  deriving DecidableEq, Repr

namespace FlagTable

/-- The row of a flag. -/
def row? (table : FlagTable) (environment key : String) : Option FlagRow :=
  table.rows.find? fun row => row.isOf environment key

/-- The flag of an environment and a key. -/
def read (table : FlagTable) (environment key : String) : Except ServiceError (Option Flag) :=
  match table.row? environment key with
  | none => .ok none
  | some row => row.decode.map some

/-- The stored version of a flag. -/
def version (table : FlagTable) (environment key : String) : Except ServiceError (Option Int64) :=
  match table.row? environment key with
  | none => .ok none
  | some row => row.readVersion.map some

/-- Whether a write with an expected version applies to what is stored. -/
def applies (stored : Option FlagRow) : Option Int64 → Bool
  | none => true
  | some expected =>
      match stored with
      | none => expected == 0
      | some row => expected != 0 && row.version == expected.toInt

/-- Put a row in the place of the one of its flag, or behind all rows. -/
def put (table : FlagTable) (row : FlagRow) : FlagTable :=
  if (table.row? row.environment row.key).isSome then
    ⟨table.rows.map fun other => if other.isOf row.environment row.key then row else other⟩
  else
    ⟨table.rows ++ [row]⟩

/-- The row that a write leaves behind. -/
def written (stored : Option FlagRow) (write : FlagWrite) (now : Instant) : FlagRow :=
  match stored with
  | none => .first write now
  | some row => row.overwritten write now

/-- Write a flag if its version is the expected one: the row written, and the table after. -/
def apply
    (table : FlagTable)
    (write : FlagWrite)
    (expected : Option Int64)
    (now : Instant) :
    Option FlagRow × FlagTable :=
  let stored := table.row? write.environment write.key
  if applies stored expected then
    let row := written stored write now
    (some row, table.put row)
  else
    (none, table)

end FlagTable

end Switchboard
