import Switchboard.Proofs.Deployment.Effects
import Switchboard.Proofs.Store.Statements
import Switchboard.Proofs.Validity.Grammar

namespace Switchboard

/-!
# Valid rows

A row has the names and the rules of the write that left it, so that requests which write no
others than valid ones leave none but valid rows.
-/

/--
A row of a flag that a caller may have written.  It is read back with the bounds that a clock
shows of the windows that were written.
-/
structure FlagRow.IsValid (row : FlagRow) : Prop where
  environment : IsEnvironmentName row.environment
  key : IsKeyName row.key
  rules : ∃ rules, Wire.decode? row.rules = some (Dated.shown rules) ∧ AreBounded rules

/-- A row of an override that a caller may have written. -/
structure OverrideRow.IsValid (row : OverrideRow) : Prop where
  environment : IsEnvironmentName row.environment
  key : IsKeyName row.key
  holder : IsNamed row.holder

/-- All rows are such as callers may have written. -/
structure Database.IsValid (database : Database) : Prop where
  flags : ∀ row ∈ database.flags.rows, row.IsValid
  overrides : ∀ row ∈ database.overrides.rows, row.IsValid

theorem Database.isValid_empty : Database.IsValid {} where
  flags row member := by cases member
  overrides row member := by cases member

/-- A request that writes nothing else than what a caller may write. -/
def Request.IsProper : Request → Prop
  | .call (.applyFlagWrite write _) => write.IsValid
  | .call (.upsertOverride scope ..) => scope.IsValid
  | _ => True

/-! ## Statements -/

namespace FlagTable

variable {table : FlagTable} {write : FlagWrite}

/-- The row that a write leaves has the names and the rules of the write. -/
private theorem isValid_written (valid : write.IsValid) (now : Instant) :
    (written (table.row? write.environment write.key) write now).IsValid := by
  obtain ⟨sameEnvironment, sameKey⟩ := table.names_of_written write now
  refine { environment := ?_, key := ?_, rules := ⟨write.rules, ?_, valid.rules⟩ }
  · rw [sameEnvironment]
    exact valid.environment
  · rw [sameKey]
    exact valid.key
  · cases table.row? write.environment write.key with
    | none => exact FaithfulWire.decode_encode write.rules
    | some row => exact FaithfulWire.decode_encode write.rules

private theorem mem_put {row other : FlagRow} (member : row ∈ (table.put other).rows) :
    row = other ∨ row ∈ table.rows := by
  unfold put at member
  split at member
  · obtain ⟨origin, isOld, rfl⟩ := List.mem_map.mp member
    split
    · exact .inl rfl
    · exact .inr isOld
  · rcases List.mem_append.mp member with isOld | isNew
    · exact .inr isOld
    · exact .inl (List.mem_singleton.mp isNew)

/-- A valid write leaves valid rows, whether it applies or not. -/
theorem isValid_apply (valid : write.IsValid) (rows : ∀ row ∈ table.rows, row.IsValid)
    (expected : Option Int64) (now : Instant) :
    ∀ row ∈ (table.apply write expected now).2.rows, row.IsValid := by
  intro row member
  by_cases accepted : applies (table.row? write.environment write.key) expected = true
  · rw [apply_accepted now accepted] at member
    rcases mem_put member with rfl | isOld
    · exact isValid_written valid now
    · exact rows row isOld
  · rw [apply_rejected now accepted] at member
    exact rows row member

end FlagTable

namespace OverrideTable

variable {table : OverrideTable} {scope : Scope} {now : Instant}
variable (rows : ∀ row ∈ table.rows, row.IsValid)
include rows

theorem isValid_upsert (valid : scope.IsValid) (id : OverrideId) (value : Bool)
    (expiresAt : Option Instant) :
    ∀ row ∈ (table.upsert id scope value expiresAt now).2.rows, row.IsValid := by
  intro row member
  rcases mem_upsert member with rfl | ⟨isOld, _⟩
  · rcases table.upsert_row id scope value expiresAt now with
      isFirst | ⟨stored, isOld, _, isRevived⟩
    · rw [isFirst]
      exact ⟨valid.environment, valid.key, valid.holder⟩
    · rw [isRevived]
      have wasValid := rows stored isOld
      exact ⟨wasValid.environment, wasValid.key, wasValid.holder⟩
  · exact rows row isOld

theorem isValid_softDelete :
    ∀ row ∈ (table.softDelete scope now).rows, row.IsValid := by
  intro row member
  rcases mem_softDelete member with isOld | ⟨stored, isOld, rfl⟩
  · exact rows row isOld
  · have wasValid := rows stored isOld
    exact ⟨wasValid.environment, wasValid.key, wasValid.holder⟩

end OverrideTable

/-! ## Requests -/

namespace World

/-- A request that writes no other than valid rows leaves valid rows. -/
theorem isValid_handle {world : World} (valid : world.database.IsValid) (place : Nat)
    {request : Request} (proper : request.IsProper) :
    (world.handle place request).2.database.IsValid := by
  have effect := effect_handle world place request
  generalize (world.handle place request).2 = later at effect
  cases effect with
  | wrote write expected =>
      exact ⟨FlagTable.isValid_apply proper valid.flags expected world.calendar, valid.overrides⟩
  | upserted scope value expiresAt =>
      exact ⟨valid.flags, OverrideTable.isValid_upsert valid.overrides proper _ value expiresAt⟩
  | cleared scope => exact ⟨valid.flags, OverrideTable.isValid_softDelete valid.overrides⟩
  | purged ids now =>
      exact ⟨valid.flags, fun row member => valid.overrides row (OverrideTable.mem_purge member)⟩
  | hung _ milliseconds _ => exact (sameStores_advance world milliseconds).database ▸ valid
  | nothing => exact valid
  | lookedUp cacheKey state present => exact valid
  | cached cacheKey text lifetime => exact valid
  | dropped cacheKey => exact valid
  | published topic event => exact valid
  | ticked => exact valid
  | counted counter amount => exact valid
  | observed keys => exact valid
  | logged records state present => exact valid

end World

end Switchboard
