import Switchboard.Store.Flags
import Switchboard.Store.Overrides

namespace Switchboard

/-!
# Rows that cannot be read

A row that was tampered with is an error of its reader, and what such an error may be is said
here once: it blames the row, never the request.
-/

/-- The errors by which the reading of a row fails. -/
inductive IsRowFault : ServiceError → Prop where
  | version : IsRowFault (.database .unworded)
  | rules : IsRowFault .serialization
  | column (detail : String) : IsRowFault (.internal detail)

variable {error : ServiceError}

theorem IsRowFault.isConflict (fault : IsRowFault error) : error.isConflict = false := by
  cases fault with
  | version => rfl
  | rules => rfl
  | column detail => rfl

private theorem error_of_bind
    {first : Except ServiceError α}
    {next : α → Except ServiceError β}
    (failed : (first >>= next) = .error error) :
    first = .error error ∨ ∃ value, next value = .error error := by
  cases first with
  | error cause =>
      cases failed
      exact .inl rfl
  | ok value => exact .inr ⟨value, failed⟩

theorem error_of_map
    {first : Except ServiceError α}
    {change : α → β}
    (failed : first.map change = .error error) :
    first = .error error := by
  cases first with
  | error cause =>
      cases failed
      rfl
  | ok value => cases failed

private theorem isRowFault_of_storedInstant {column text : String}
    (failed : storedInstant column text = .error error) :
    IsRowFault error := by
  unfold storedInstant at failed
  split at failed
  · cases failed
  · cases failed
    exact .column _

private theorem isRowFault_of_storedOptionalInstant {column : String} {text? : Option String}
    (failed : storedOptionalInstant column text? = .error error) :
    IsRowFault error := by
  cases text? with
  | none => cases failed
  | some text => exact isRowFault_of_storedInstant (error_of_map failed)

private theorem FlagRow.isRowFault_of_readVersion {row : FlagRow}
    (failed : row.readVersion = .error error) :
    IsRowFault error := by
  unfold FlagRow.readVersion at failed
  split at failed
  · cases failed
  · cases failed
    exact .version

theorem FlagRow.isRowFault_of_decode {row : FlagRow} (failed : row.decode = .error error) :
    IsRowFault error := by
  unfold FlagRow.decode at failed
  rcases error_of_bind failed with version | ⟨_, failed⟩
  · exact isRowFault_of_readVersion version
  rcases error_of_bind failed with rules | ⟨_, failed⟩
  · unfold FlagRow.readRules at rules
    split at rules
    · cases rules
    · cases rules
      exact .rules
  rcases error_of_bind failed with created | ⟨_, failed⟩
  · exact isRowFault_of_storedInstant created
  rcases error_of_bind failed with updated | ⟨_, failed⟩
  · exact isRowFault_of_storedInstant updated
  · cases failed

theorem OverrideRow.isRowFault_of_decode {row : OverrideRow} (failed : row.decode = .error error) :
    IsRowFault error := by
  unfold OverrideRow.decode at failed
  rcases error_of_bind failed with id | ⟨_, failed⟩
  · unfold OverrideRow.readId at id
    split at id
    · cases id
    · cases id
      exact .column _
  rcases error_of_bind failed with kind | ⟨_, failed⟩
  · unfold OverrideRow.readKind at kind
    split at kind
    · cases kind
    · cases kind
      exact .column _
  rcases error_of_bind failed with expires | ⟨_, failed⟩
  · exact isRowFault_of_storedOptionalInstant expires
  rcases error_of_bind failed with deleted | ⟨_, failed⟩
  · exact isRowFault_of_storedOptionalInstant deleted
  rcases error_of_bind failed with created | ⟨_, failed⟩
  · exact isRowFault_of_storedInstant created
  rcases error_of_bind failed with updated | ⟨_, failed⟩
  · exact isRowFault_of_storedInstant updated
  · cases failed

theorem FlagTable.isRowFault_of_read {table : FlagTable} {environment key : String}
    (failed : table.read environment key = .error error) :
    IsRowFault error := by
  unfold FlagTable.read at failed
  cases found : table.row? environment key with
  | none =>
      rw [found] at failed
      cases failed
  | some row =>
      rw [found] at failed
      exact FlagRow.isRowFault_of_decode (error_of_map failed)

theorem FlagTable.isRowFault_of_version {table : FlagTable} {environment key : String}
    (failed : table.version environment key = .error error) :
    IsRowFault error := by
  unfold FlagTable.version at failed
  cases found : table.row? environment key with
  | none =>
      rw [found] at failed
      cases failed
  | some row =>
      rw [found] at failed
      exact FlagRow.isRowFault_of_readVersion (error_of_map failed)

theorem OverrideTable.isRowFault_of_find {table : OverrideTable} {scope : Scope} {now : Instant}
    (failed : table.find scope now = .error error) :
    IsRowFault error := by
  unfold OverrideTable.find at failed
  split at failed
  · cases failed
  · rcases error_of_bind failed with expires | ⟨_, failed⟩
    · exact isRowFault_of_storedOptionalInstant expires
    · cases failed

theorem OverrideTable.isRowFault_of_listDead {table : OverrideTable} {now : Instant} {limit : Nat}
    (failed : table.listDead now limit = .error error) :
    IsRowFault error := by
  unfold OverrideTable.listDead at failed
  generalize table.deadRows now limit = rows at failed
  induction rows with
  | nil => cases failed
  | cons row rest inductionHypothesis =>
      rw [List.mapM_cons] at failed
      rcases error_of_bind failed with first | ⟨_, failed⟩
      · exact OverrideRow.isRowFault_of_decode first
      rcases error_of_bind failed with later | ⟨_, failed⟩
      · exact inductionHypothesis later
      · cases failed

end Switchboard
