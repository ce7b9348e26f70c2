import Switchboard.Store.Flags
import Switchboard.Store.Overrides

namespace Switchboard

/-!
# Repairing rows by hand

Setting one column of a stored row, by its name, to whatever a hand on the database
may put there.  Readers must expect rows that no write of the service leaves behind.
-/

namespace FlagRow

/-- The row with another value in a column that keeps a text or a version. -/
def setColumn? (row : FlagRow) (column : String) (value : Json) : Option FlagRow :=
  match column with
  | "rules" => (Json.text? value).map fun rules => { row with rules }
  | "snapshot_version" => (Json.int64? value).map fun version => { row with version }
  | "created_at" => (Json.text? value).map fun createdAt => { row with createdAt }
  | "updated_at" => (Json.text? value).map fun updatedAt => { row with updatedAt }
  | _ => none

end FlagRow

namespace OverrideRow

/-- The row with another text in a column. -/
def setColumn? (row : OverrideRow) (column : String) (value : Json) : Option OverrideRow := do
  let text ← Json.text? value
  match column with
  | "id" => return { row with id := text }
  | "scope_type" => return { row with scopeType := text }
  | "expires_at" => return { row with expiresAt := some text }
  | "deleted_at" => return { row with deletedAt := some text }
  | "created_at" => return { row with createdAt := text }
  | "updated_at" => return { row with updatedAt := text }
  | _ => none

end OverrideRow

namespace FlagTable

/-- Set a column in the row of a flag, and count the rows set. -/
def repair (table : FlagTable) (environment key column : String) (value : Json) :
    Option (Nat × FlagTable) := do
  let rows ← table.rows.mapM fun row =>
    if row.isOf environment key then row.setColumn? column value else some row
  return (table.rows.countP fun row => row.isOf environment key, ⟨rows⟩)

end FlagTable

namespace OverrideTable

/-- Set a column in the row of a scope, and count the rows set. -/
def repair (table : OverrideTable) (scope : Scope) (column : String) (value : Json) :
    Option (Nat × OverrideTable) := do
  let rows ← table.rows.mapM fun row =>
    if row.isOf scope then row.setColumn? column value else some row
  return (table.rows.countP fun row => row.isOf scope, ⟨rows⟩)

end OverrideTable

end Switchboard
