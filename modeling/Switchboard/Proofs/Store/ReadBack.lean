import Switchboard.Proofs.Store.Sweeps

namespace Switchboard.OverrideTable

/-!
# Rows that are read back

In years of four digits every row of a new value is read back as what was written: the value,
and the expiry that a clock shows in whole microseconds.  What is read back is what readers find
until it expires.
-/

variable {table : OverrideTable} {scope : Scope} {expiresAt : Option Instant} {now : Instant}

/-- The rows of other scopes are in the table after a new value when they were before. -/
theorem mem_upsert_iff_of_other {id : OverrideId} {value : Bool} {row : OverrideRow}
    (isOther : row.isOf scope = false) :
    row ∈ (table.upsert id scope value expiresAt now).2.rows ↔ row ∈ table.rows := by
  refine ⟨fun member => ?_, fun member => mem_upsert_of_other member isOther⟩
  rcases mem_upsert member with rfl | ⟨isOld, _⟩
  · rw [(table.upsert_columns id scope value expiresAt now).1] at isOther
    cases isOther
  · exact isOld

/-- A sweep leaves rows such as they were. -/
theorem IsRegular.purge (regular : table.IsRegular) (now : Instant) (ids : List OverrideId) :
    (table.purge now ids).2.IsRegular where
  readable row member := regular.readable row (mem_purge member)
  sound := regular.sound.purge now ids

/-- The row of a new value is read back as what was written. -/
theorem IsRegular.decode_upsert (regular : table.IsRegular)
    (expiryPlain : ∀ expiry ∈ expiresAt, expiry.HasPlainYear)
    (plainYear : now.HasPlainYear)
    (id : OverrideId) (scope : Scope) (value : Bool) :
    ∃ stored, (table.upsert id scope value expiresAt now).1.decode = .ok stored ∧
      stored.scope = scope ∧
        stored.state = ⟨value, expiresAt.map fun expiry => expiry.shown.truncateToMicros⟩ ∧
          stored.deletedAt = none := by
  obtain ⟨stored, decoded⟩ :=
    (regular.readable.upsert id scope value expiryPlain plainYear).1.decode
  have reads := OverrideRow.reads_of_decode decoded
  obtain ⟨isOf, isValue, expires, kept, -⟩ := table.upsert_columns id scope value expiresAt now
  have readsExpiry := reads.expiresAt
  rw [expires, storedOptionalInstant_map_toStored_of_hasPlainYear "expires_at" expiryPlain]
    at readsExpiry
  have readsDeletion := reads.deletedAt
  rw [kept] at readsDeletion
  refine ⟨stored, decoded, reads.scope_eq isOf, ?_, (Except.ok.inj readsDeletion).symm⟩
  rw [Override.state, ← reads.value, isValue, ← Except.ok.inj readsExpiry]

/-- Whatever the instant, readers of a sound table are told something. -/
theorem IsSound.exists_find (sound : table.IsSound) (scope : Scope) (now : Instant) :
    ∃ found, table.find scope now = .ok found := by
  rw [OnePerScope.find_eq sound.onePerScope]
  cases found : (table.row? scope).filter fun row => row.isVisible now.toStored with
  | none => exact ⟨none, rfl⟩
  | some row =>
      obtain ⟨isRow, _⟩ := Option.filter_eq_some_iff.mp found
      obtain ⟨state, read, _, _⟩ := (sound.storedExpiry row (mem_of_row isRow).1).read
      simp only [read]
      exact ⟨_, rfl⟩

/-- What is read back of a row is found until it expires. -/
theorem IsSound.find_of_row (sound : table.IsSound) {row : OverrideRow} {stored : Override}
    (isRow : table.row? scope = some row)
    (decoded : row.decode = .ok stored)
    (kept : row.deletedAt = none)
    (storable : now.IsStorable) :
    table.find scope now =
      .ok (if stored.state.isActive now then some stored.state else none) := by
  have reads := OverrideRow.reads_of_decode decoded
  obtain ⟨state, readsExpiry, isValue, expired⟩ :=
    (sound.storedExpiry row (mem_of_row isRow).1).read
  have isState : stored.state = state := by
    obtain ⟨value, expiresAt⟩ := state
    rw [Override.state, ← reads.value, ← isValue,
      Except.ok.inj (reads.expiresAt.symm.trans readsExpiry)]
  rw [isState, OnePerScope.find_eq sound.onePerScope, isRow, Option.filter_some,
    OverrideRow.isVisible, expired now storable, kept]
  cases active : state.isActive now with
  | false => rfl
  | true => simp [readsExpiry, ← isValue, bind, Except.bind, pure, Except.pure]

end Switchboard.OverrideTable
