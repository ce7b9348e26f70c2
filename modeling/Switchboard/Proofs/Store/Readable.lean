import Switchboard.Deployment.World
import Switchboard.Proofs.Store.Flags
import Switchboard.Proofs.Store.Overrides
import Switchboard.Proofs.Time.Progress

namespace Switchboard

/-!
# Rows that stay readable

What statements write is read back by every later reader.  The versions of a flag never
run out: each write takes a microsecond of the calendar, and the years of four digits
have fewer microseconds than there are versions.
-/

namespace FlagTable

/-- Every row is read, and no flag has more versions than the calendar has microseconds. -/
def IsReadable (table : FlagTable) (calendar : Instant) : Prop :=
  ∀ environment key row, table.row? environment key = some row →
    (∃ flag, row.decode = .ok flag) ∧ row.version ≤ calendar.micros

theorem isReadable_empty (calendar : Instant) : IsReadable {} calendar := by
  intro environment key row found
  cases found

variable {table : FlagTable} {calendar : Instant}

theorem IsReadable.mono {later : Instant} (readable : table.IsReadable calendar)
    (ordered : calendar ≤ later) :
    table.IsReadable later := by
  intro environment key row found
  obtain ⟨decoded, version⟩ := readable environment key row found
  exact ⟨decoded, Int.le_trans version (Instant.micros_le_micros ordered)⟩

/-- The row that a write leaves is read, and its version took a microsecond. -/
theorem IsReadable.written (readable : table.IsReadable calendar)
    (plainYear : calendar.HasPlainYear)
    (write : FlagWrite) :
    let row := written (table.row? write.environment write.key) write calendar
    (∃ flag, row.decode = .ok flag) ∧ row.version ≤ calendar.next.micros := by
  obtain ⟨notNegative, inRange⟩ := plainYear.micros_bounds
  have moved := Instant.micros_lt_micros_next plainYear.2
  cases found : table.row? write.environment write.key with
  | none =>
      refine ⟨⟨_, FlagRow.decode_first plainYear⟩, ?_⟩
      simp only [FlagTable.written, FlagRow.first]
      omega
  | some row =>
      obtain ⟨⟨flag, decoded⟩, version⟩ := readable _ _ row found
      have room : row.version + 1 < FlagRow.versionBound := by
        unfold FlagRow.versionBound
        omega
      have raised : FlagRow.raised row.version = row.version + 1 :=
        if_pos (FlagRow.decode_eq_ok_iff.mp decoded).inRange
      refine ⟨⟨_, FlagRow.decode_overwritten decoded room plainYear⟩, ?_⟩
      simp only [FlagTable.written, FlagRow.overwritten, raised]
      omega

/-- The row that an applied write returns is read. -/
theorem IsReadable.applied (readable : table.IsReadable calendar)
    (plainYear : calendar.HasPlainYear)
    {write : FlagWrite}
    {expected : Option Int64}
    {row : FlagRow}
    (applied : (table.apply write expected calendar).1 = some row) :
    ∃ flag, row.decode = .ok flag := by
  by_cases accepted : applies (table.row? write.environment write.key) expected = true
  · rw [apply_accepted calendar accepted] at applied
    cases applied
    exact (readable.written plainYear write).1
  · rw [apply_rejected calendar accepted] at applied
    cases applied

/-- A write in a year of four digits keeps every row readable. -/
theorem IsReadable.apply (readable : table.IsReadable calendar)
    (plainYear : calendar.HasPlainYear)
    (write : FlagWrite)
    (expected : Option Int64) :
    (table.apply write expected calendar).2.IsReadable calendar.next := by
  intro environment key row found
  by_cases here : write.environment = environment ∧ write.key = key
  · obtain ⟨rfl, rfl⟩ := here
    by_cases accepted :
        applies (table.row? write.environment write.key) expected = true
    · have applied := apply_accepted calendar accepted
      rw [applied, row_apply_self applied] at found
      cases found
      exact readable.written plainYear write
    · rw [apply_rejected calendar accepted] at found
      exact readable.mono calendar.le_next _ _ row found
  · rw [row_apply_other here] at found
    exact readable.mono calendar.le_next _ _ row found

end FlagTable

namespace OverrideRow

/-- Every column of a row is read. -/
structure IsReadable (row : OverrideRow) : Prop where
  id : ∃ id, OverrideId.parse row.id = some id
  kind : ∃ kind, ScopeKind.ofLabel? row.scopeType = some kind
  expiresAt : row.HasStoredExpiry
  deletedAt : ∀ text, row.deletedAt = some text → ∃ instant, Instant.readStrict text = some instant
  createdAt : ∃ instant, Instant.readStrict row.createdAt = some instant
  updatedAt : ∃ instant, Instant.readStrict row.updatedAt = some instant

variable {row : OverrideRow} {now : Instant}

theorem IsReadable.decode (readable : row.IsReadable) :
    ∃ override, row.decode = .ok override := by
  obtain ⟨id, readsId⟩ := readable.id
  obtain ⟨kind, readsKind⟩ := readable.kind
  obtain ⟨state, readsExpiry, _, _⟩ := readable.expiresAt.read
  obtain ⟨createdAt, readsCreated⟩ := readable.createdAt
  obtain ⟨updatedAt, readsUpdated⟩ := readable.updatedAt
  obtain ⟨deletedAt, readsDeleted⟩ :
      ∃ instant?, storedOptionalInstant "deleted_at" row.deletedAt = .ok instant? := by
    cases deleted : row.deletedAt with
    | none => exact ⟨none, rfl⟩
    | some text =>
        obtain ⟨instant, reads⟩ := readable.deletedAt text deleted
        exact ⟨some instant, by simp [storedOptionalInstant, storedInstant, reads, Except.map]⟩
  refine ⟨{
    id
    scope := ⟨row.environment, row.key, kind, row.holder⟩
    value := row.value
    expiresAt := state.expiresAt
    deletedAt
    createdAt
    updatedAt
  }, ?_⟩
  simp [OverrideRow.decode, readId, readKind, storedInstant, readsId, readsKind,
    readsExpiry, readsDeleted, readsCreated, readsUpdated, bind, Except.bind, pure, Except.pure]

/-- The first row of a scope is read. -/
theorem isReadable_first (id : OverrideId) (scope : Scope) (value : Bool)
    {expiresAt : Option Instant}
    (expiryPlain : ∀ expiry ∈ expiresAt, expiry.HasPlainYear)
    (plainYear : now.HasPlainYear) :
    (first id scope value expiresAt now).IsReadable where
  id := ⟨id, OverrideId.parse_written id⟩
  kind := ⟨scope.kind, ScopeKind.ofLabel_label scope.kind⟩
  expiresAt := hasStoredExpiry_of_map expiryPlain rfl
  deletedAt text deleted := by cases deleted
  createdAt := ⟨_, Instant.readStrict_toStored_of_hasPlainYear plainYear⟩
  updatedAt := ⟨_, Instant.readStrict_toStored_of_hasPlainYear plainYear⟩

/-- A row that was read is read after a new value. -/
theorem IsReadable.revived (readable : row.IsReadable) (value : Bool)
    {expiresAt : Option Instant}
    (expiryPlain : ∀ expiry ∈ expiresAt, expiry.HasPlainYear)
    (plainYear : now.HasPlainYear) :
    (row.revived value expiresAt now).IsReadable where
  id := readable.id
  kind := readable.kind
  expiresAt := hasStoredExpiry_of_map expiryPlain rfl
  deletedAt text deleted := by cases deleted
  createdAt := readable.createdAt
  updatedAt := ⟨_, Instant.readStrict_toStored_of_hasPlainYear plainYear⟩

/-- A row that was read is read after it was cleared. -/
theorem IsReadable.cleared (readable : row.IsReadable) (plainYear : now.HasPlainYear) :
    (row.cleared now).IsReadable where
  id := readable.id
  kind := readable.kind
  expiresAt := readable.expiresAt
  deletedAt text deleted := by
    cases deleted
    exact ⟨_, Instant.readStrict_toStored_of_hasPlainYear plainYear⟩
  createdAt := readable.createdAt
  updatedAt := ⟨_, Instant.readStrict_toStored_of_hasPlainYear plainYear⟩

end OverrideRow

namespace OverrideTable

/-- Every column of every row is read. -/
def IsReadable (table : OverrideTable) : Prop :=
  ∀ row ∈ table.rows, row.IsReadable

theorem isReadable_empty : IsReadable {} := by
  intro row member
  cases member

variable {table : OverrideTable} {now : Instant}

/-- A new value leaves a row that is read, as all others are. -/
theorem IsReadable.upsert (readable : table.IsReadable) (id : OverrideId) (scope : Scope)
    (value : Bool)
    {expiresAt : Option Instant}
    (expiryPlain : ∀ expiry ∈ expiresAt, expiry.HasPlainYear)
    (plainYear : now.HasPlainYear) :
    (table.upsert id scope value expiresAt now).1.IsReadable ∧
      (table.upsert id scope value expiresAt now).2.IsReadable := by
  unfold OverrideTable.upsert
  cases found : table.row? scope with
  | none =>
      have first := OverrideRow.isReadable_first id scope value expiryPlain plainYear
      refine ⟨first, ?_⟩
      intro row member
      rcases List.mem_append.mp member with isOld | isNew
      · exact readable row isOld
      · rwa [List.mem_singleton.mp isNew]
  | some stored =>
      have revived :=
        (readable stored (mem_of_row found).1).revived value expiryPlain plainYear
      refine ⟨revived, ?_⟩
      intro row member
      obtain ⟨origin, originMember, rfl⟩ := List.mem_map.mp member
      split
      · exact revived
      · exact readable origin originMember

/-- Clearing a scope leaves every row readable. -/
theorem IsReadable.softDelete (readable : table.IsReadable) (scope : Scope)
    (plainYear : now.HasPlainYear) :
    (table.softDelete scope now).IsReadable := by
  intro row member
  obtain ⟨origin, originMember, rfl⟩ := List.mem_map.mp member
  split
  · exact (readable origin originMember).cleared plainYear
  · exact readable origin originMember

/-- The rows are such as statements in years of four digits leave them. -/
structure IsRegular (table : OverrideTable) : Prop where
  readable : table.IsReadable
  sound : table.IsSound

theorem isRegular_empty : IsRegular {} where
  readable := isReadable_empty
  sound := isSound_empty

theorem IsRegular.upsert (regular : table.IsRegular) (id : OverrideId) (scope : Scope)
    (value : Bool)
    {expiresAt : Option Instant}
    (expiryPlain : ∀ expiry ∈ expiresAt, expiry.HasPlainYear)
    (plainYear : now.HasPlainYear) :
    (table.upsert id scope value expiresAt now).2.IsRegular where
  readable := (regular.readable.upsert id scope value expiryPlain plainYear).2
  sound := regular.sound.upsert id scope value now expiryPlain

theorem IsRegular.softDelete (regular : table.IsRegular) (scope : Scope)
    (plainYear : now.HasPlainYear) :
    (table.softDelete scope now).IsRegular where
  readable := regular.readable.softDelete scope plainYear
  sound := regular.sound.softDelete scope now

end OverrideTable

end Switchboard
