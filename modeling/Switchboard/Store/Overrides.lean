import Switchboard.Override.Basic
import Switchboard.Store.Column

namespace Switchboard

/-!
# Stored overrides

One row for each scope.  Expiries are compared as texts, by the order in which all
stored instants of four digit years stand.  A cleared override keeps its row, and a
new value of its scope revives it under its old identifier.
-/

/-- An override as it is stored. -/
structure OverrideRow where
  id : String
  environment : String
  key : String
  scopeType : String
  holder : String
  value : Bool
  expiresAt : Option String
  deletedAt : Option String
  createdAt : String
  updatedAt : String
  deriving DecidableEq, Repr

namespace OverrideRow

/-- Whether a row is the one of a scope. -/
def isOf (row : OverrideRow) (scope : Scope) : Bool :=
  row.environment == scope.environment && row.key == scope.key &&
    row.scopeType == scope.kind.label && row.holder == scope.holder

/-- Whether the expiry of a row, if it has one, is not later than a stored instant. -/
def isExpired (row : OverrideRow) (now : String) : Bool :=
  row.expiresAt.any fun expiry => decide (expiry ≤ now)

/-- Whether readers see a row. -/
def isVisible (row : OverrideRow) (now : String) : Bool :=
  row.deletedAt.isNone && !row.isExpired now

/-- Whether a row waits to be swept. -/
def isDead (row : OverrideRow) (now : String) : Bool :=
  row.deletedAt.isSome || row.isExpired now

/-- The identifier of a row. -/
def readId (row : OverrideRow) : Except ServiceError OverrideId :=
  match OverrideId.parse row.id with
  | some id => .ok id
  | none => .error (.internal "Invalid override ID")

/-- The dimension of the scope of a row. -/
def readKind (row : OverrideRow) : Except ServiceError ScopeKind :=
  match ScopeKind.ofLabel? row.scopeType with
  | some kind => .ok kind
  | none => .error (.internal (ScopeKind.unknownLabel row.scopeType))

/-- The override of a row. -/
def decode (row : OverrideRow) : Except ServiceError Override := do
  let id ← row.readId
  let kind ← row.readKind
  let expiresAt ← storedOptionalInstant "expires_at" row.expiresAt
  let deletedAt ← storedOptionalInstant "deleted_at" row.deletedAt
  let createdAt ← storedInstant "created_at" row.createdAt
  let updatedAt ← storedInstant "updated_at" row.updatedAt
  return {
    id
    scope := ⟨row.environment, row.key, kind, row.holder⟩
    value := row.value
    expiresAt
    deletedAt
    createdAt
    updatedAt
  }

/-- The first row of a scope. -/
def first
    (id : OverrideId)
    (scope : Scope)
    (value : Bool)
    (expiresAt : Option Instant)
    (now : Instant) : OverrideRow where
  id := id.written
  environment := scope.environment
  key := scope.key
  scopeType := scope.kind.label
  holder := scope.holder
  value := value
  expiresAt := expiresAt.map Instant.toStored
  deletedAt := none
  createdAt := now.toStored
  updatedAt := now.toStored

/-- The row after a new value. -/
def revived
    (row : OverrideRow)
    (value : Bool)
    (expiresAt : Option Instant)
    (now : Instant) : OverrideRow :=
  { row with
    value
    expiresAt := expiresAt.map Instant.toStored
    deletedAt := none
    updatedAt := now.toStored }

/-- The row after its scope was cleared. -/
def cleared (row : OverrideRow) (now : Instant) : OverrideRow :=
  { row with deletedAt := some now.toStored, updatedAt := now.toStored }

end OverrideRow

/-- The rows of all overrides, in the order in which they were first written. -/
structure OverrideTable where
  rows : List OverrideRow := []
  deriving DecidableEq, Repr

namespace OverrideTable

/-- The row of a scope. -/
def row? (table : OverrideTable) (scope : Scope) : Option OverrideRow :=
  table.rows.find? fun row => row.isOf scope

/-- What readers see of a scope. -/
def find
    (table : OverrideTable)
    (scope : Scope)
    (now : Instant) : Except ServiceError (Option OverrideValue) :=
  match table.rows.find? fun row => row.isOf scope && row.isVisible now.toStored with
  | none => .ok none
  | some row => do
      return some ⟨row.value, ← storedOptionalInstant "expires_at" row.expiresAt⟩

/-- Give a scope a value: the row written, and the table after. -/
def upsert
    (table : OverrideTable)
    (id : OverrideId)
    (scope : Scope)
    (value : Bool)
    (expiresAt : Option Instant)
    (now : Instant) :
    OverrideRow × OverrideTable :=
  match table.row? scope with
  | none =>
      let row := OverrideRow.first id scope value expiresAt now
      (row, ⟨table.rows ++ [row]⟩)
  | some stored =>
      let row := stored.revived value expiresAt now
      (row, ⟨table.rows.map fun other => if other.isOf scope then row else other⟩)

/-- Clear a scope; one that is cleared already stays as it is. -/
def softDelete (table : OverrideTable) (scope : Scope) (now : Instant) : OverrideTable :=
  ⟨table.rows.map fun row =>
    if row.isOf scope && row.deletedAt.isNone then row.cleared now else row⟩

/-- The rows that wait to be swept, those first that were not changed for the longest time. -/
def deadRows (table : OverrideTable) (now : Instant) (limit : Nat) : List OverrideRow :=
  ((table.rows.filter fun row => row.isDead now.toStored).mergeSort
    fun first second => decide (first.updatedAt ≤ second.updatedAt)).take limit

/-- The overrides that wait to be swept. -/
def listDead
    (table : OverrideTable)
    (now : Instant)
    (limit : Nat) : Except ServiceError (List Override) :=
  (table.deadRows now limit).mapM OverrideRow.decode

/-- Remove the rows of an identifier that wait to be swept, and count them. -/
def purgeOne (table : OverrideTable) (now : Instant) (id : OverrideId) : Nat × OverrideTable :=
  let goes (row : OverrideRow) := row.id == id.written && row.isDead now.toStored
  (table.rows.countP goes, ⟨table.rows.filter fun row => !goes row⟩)

/-- Remove the rows of some identifiers that wait to be swept, and count them. -/
def purge (table : OverrideTable) (now : Instant) : List OverrideId → Nat × OverrideTable
  | [] => (0, table)
  | id :: rest =>
      let (first, table) := table.purgeOne now id
      let (later, table) := table.purge now rest
      (first + later, table)

end OverrideTable

end Switchboard
