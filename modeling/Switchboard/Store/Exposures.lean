import Switchboard.Exposure.Record
import Switchboard.Time.Written

namespace Switchboard

/-!
# Stored exposure records

Rows are only ever appended, and numbered from one.
-/

/-- An exposure record as it is stored. -/
structure ExposureRow where
  id : Nat
  environment : String
  key : String
  value : Bool
  reason : String
  userId : Option String
  tenantId : Option String
  timestamp : String
  deriving DecidableEq, Repr

/-- The row of a record. -/
def Exposure.row (record : Exposure) (id : Nat) : ExposureRow where
  id := id
  environment := record.environment
  key := record.key
  value := record.value
  reason := record.reason.display
  userId := record.userId
  tenantId := record.tenantId
  timestamp := record.timestamp.toStored

/-- All rows, in the order of their numbers. -/
structure ExposureTable where
  rows : List ExposureRow := []
  deriving DecidableEq, Repr

namespace ExposureTable

/-- Append a record. -/
def append (table : ExposureTable) (record : Exposure) : ExposureTable :=
  ⟨table.rows ++ [record.row (table.rows.length + 1)]⟩

/-- Append a batch. -/
def appendAll (table : ExposureTable) (batch : List Exposure) : ExposureTable :=
  batch.foldl append table

end ExposureTable

end Switchboard
