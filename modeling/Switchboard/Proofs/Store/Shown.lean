import Switchboard.Proofs.Store.Readable
import Switchboard.Proofs.Store.Statements

namespace Switchboard

/-!
# What recorded rows show

A row is written before it is read back.  Where the expiry has a year of four digits the
row is read, and readers see its value until the expiry; where it has not, the row is not
read, and no reader sees its scope any more.
-/

namespace OverrideRow

variable {row : OverrideRow} {calendar : Instant}

/-- A written row is read back when its expiry is. -/
theorem IsRecorded.decode_of_plainYears (recorded : row.IsRecorded calendar)
    {expiresAt : Option Instant}
    {now : Instant}
    (expiry : row.expiresAt = expiresAt.map Instant.toStored)
    (plainYears : ∀ expiry ∈ expiresAt, expiry.HasPlainYear)
    (kept : row.deletedAt = none)
    (writtenAt : row.updatedAt = now.toStored)
    (nowPlain : now.HasPlainYear) :
    ∃ override, row.decode = .ok override := by
  have readable : row.IsReadable := {
    id := recorded.id
    kind := recorded.kind
    expiresAt := hasStoredExpiry_of_map plainYears expiry
    deletedAt := fun text deleted => by rw [kept] at deleted; cases deleted
    createdAt := recorded.createdAt
    updatedAt := ⟨_, writtenAt ▸ Instant.readStrict_toStored_of_hasPlainYear nowPlain⟩ }
  exact readable.decode

/-- A row is not read back when its expiry is not. -/
theorem IsRecorded.decode_of_not_hasPlainYear (recorded : row.IsRecorded calendar)
    {expiry : Instant}
    (expires : row.expiresAt = some expiry.toStored)
    (notPlain : ¬expiry.HasPlainYear) :
    row.decode = .error (.internal "Invalid expires_at") := by
  obtain ⟨id, readsId⟩ := recorded.id
  obtain ⟨kind, readsKind⟩ := recorded.kind
  have unread : storedOptionalInstant "expires_at" row.expiresAt =
      .error (.internal "Invalid expires_at") := by
    rw [expires]
    simp only [storedOptionalInstant, storedInstant,
      Instant.readStrict_toStored_eq_none notPlain, Except.map]
    rfl
  simp [decode, readId, readKind, readsId, readsKind, unread, bind, Except.bind]

/-- A row whose expiry has no year of four digits is expired at all times. -/
theorem isExpired_of_not_hasPlainYear {expiry now : Instant}
    (expires : row.expiresAt = some expiry.toStored)
    (notPlain : ¬expiry.HasPlainYear)
    (plainYear : now.HasPlainYear) :
    row.isExpired now.toStored = true := by
  have before := Instant.toStored_lt_toStored_of_not_hasPlainYear notPlain plainYear
  simp [isExpired, expires, Std.le_of_lt before]

/-- What readers see of a row. -/
def seenAt (row : OverrideRow) (now : Instant) : Except ServiceError (Option OverrideValue) :=
  if row.isVisible now.toStored then do
    return some ⟨row.value, ← storedOptionalInstant "expires_at" row.expiresAt⟩
  else
    .ok none

/-- Nobody sees a row that is cleared. -/
private theorem seenAt_of_cleared {text : String} (cleared : row.deletedAt = some text)
    (now : Instant) :
    row.seenAt now = .ok none := by
  simp [seenAt, isVisible, cleared]

/-- Nobody sees a row that is not read. -/
private theorem seenAt_of_not_hasPlainYear {expiry : Instant}
    (expires : row.expiresAt = some expiry.toStored)
    (notPlain : ¬expiry.HasPlainYear) :
    (∀ now : Instant, now.HasPlainYear → row.seenAt now = .ok none) ∧
      ∀ now state, row.seenAt now ≠ .ok (some state) := by
  constructor
  · intro now plainYear
    have expired := isExpired_of_not_hasPlainYear expires notPlain plainYear
    simp [seenAt, isVisible, expired]
  · intro now state
    unfold seenAt
    split
    · simp [expires, storedOptionalInstant, storedInstant,
        Instant.readStrict_toStored_eq_none notPlain, Except.map, bind, Except.bind]
    · simp

/-- What readers see of a row that is read is its value, until its expiry. -/
private theorem seenAt_of_stored (stored : row.HasStoredExpiry) (kept : row.deletedAt = none) :
    ∃ shown : OverrideValue,
      (∀ now : Instant, now.IsStorable →
        row.seenAt now = .ok (if shown.isActive now then some shown else none)) ∧
      ∀ now state, row.seenAt now = .ok (some state) → shown = state := by
  obtain ⟨shown, read, value, expired⟩ := stored.read
  have seen (now : Instant) :
      row.seenAt now = if row.isVisible now.toStored then .ok (some shown) else .ok none := by
    unfold seenAt
    rw [read, ← value]
    rfl
  refine ⟨shown, fun now storable => ?_, fun now state isSeen => ?_⟩
  · rw [seen, isVisible, kept, expired now storable]
    cases shown.isActive now with
    | true => rfl
    | false => rfl
  · rw [seen] at isSeen
    split at isSeen
    · exact Option.some.inj (Except.ok.inj isSeen)
    · cases isSeen

/-- What readers see of a recorded row: one state or none, and the state while it is in force. -/
theorem IsRecorded.seenAt_eq (recorded : row.IsRecorded calendar) :
    ∃ state? : Option OverrideValue,
      (∀ now : Instant, now.IsStorable →
        row.seenAt now = .ok (state?.filter fun state => state.isActive now)) ∧
      ∀ now state, row.seenAt now = .ok (some state) → state? = some state := by
  cases cleared : row.deletedAt with
  | some text =>
      refine ⟨none, fun now _ => seenAt_of_cleared cleared now, fun now state isSeen => ?_⟩
      rw [seenAt_of_cleared cleared] at isSeen
      cases isSeen
  | none =>
      by_cases readable : row.HasStoredExpiry
      · obtain ⟨shown, seen, only⟩ := seenAt_of_stored readable cleared
        refine ⟨some shown, fun now storable => ?_, fun now state isSeen => ?_⟩
        · rw [seen now storable, Option.filter_some]
        · exact congrArg some (only now state isSeen)
      · obtain ⟨text, expires, unread⟩ :
            ∃ text, row.expiresAt = some text ∧
              ∀ expiry : Instant, expiry.IsStorable → text ≠ expiry.toStored := by
          simpa [HasStoredExpiry] using readable
        obtain ⟨expiry, rfl⟩ := recorded.expiresAt text expires
        have notPlain : ¬expiry.HasPlainYear := fun plainYear =>
          unread expiry.shown plainYear.isStorable_shown expiry.toStored_shown.symm
        obtain ⟨hidden, unseen⟩ := seenAt_of_not_hasPlainYear expires notPlain
        exact ⟨none, fun now storable => hidden now storable.plainYear,
          fun now state isSeen => absurd isSeen (unseen now state)⟩

end OverrideRow

namespace OverrideTable

open OverrideRow

variable {table : OverrideTable} {calendar now : Instant}

/-- A new value is read back exactly when its expiry has a year of four digits, if it has one. -/
theorem IsRecorded.decode_upsert (recorded : table.IsRecorded calendar)
    (storable : calendar.IsStorable) (id : OverrideId) (scope : Scope) (value : Bool)
    (expiresAt : Option Instant) :
    ((∀ expiry ∈ expiresAt, expiry.HasPlainYear) →
        ∃ override, (table.upsert id scope value expiresAt calendar).1.decode = .ok override) ∧
      ((∃ expiry ∈ expiresAt, ¬expiry.HasPlainYear) →
        (table.upsert id scope value expiresAt calendar).1.decode =
          .error (.internal "Invalid expires_at")) := by
  have row := recorded.upsert_row storable id scope value expiresAt
  obtain ⟨_, _, expires, kept, writtenAt⟩ := table.upsert_columns id scope value expiresAt calendar
  refine ⟨fun readable =>
    row.decode_of_plainYears expires readable kept writtenAt storable.plainYear, ?_⟩
  rintro ⟨expiry, isExpiry, notPlain⟩
  obtain rfl := Option.mem_def.mp isExpiry
  exact row.decode_of_not_hasPlainYear expires notPlain

/-- A new value that is not read back is seen by nobody, nor is what its scope showed before. -/
theorem find_upsert_of_not_hasPlainYear {expiresAt : Option Instant}
    (notPlain : ∃ expiry ∈ expiresAt, ¬expiry.HasPlainYear)
    (plainYear : now.HasPlainYear) (id : OverrideId) (scope : Scope) (value : Bool) :
    (table.upsert id scope value expiresAt calendar).2.find scope now = .ok none := by
  obtain ⟨expiry, isExpiry, notPlain⟩ := notPlain
  obtain rfl := Option.mem_def.mp isExpiry
  have hidden : (table.upsert id scope value (some expiry) calendar).2.rows.find?
      (fun row => row.isOf scope && row.isVisible now.toStored) = none := by
    refine List.find?_eq_none.mpr fun row member => ?_
    rcases mem_upsert member with rfl | ⟨_, other⟩
    · obtain ⟨_, _, expires, _⟩ := table.upsert_columns id scope value (some expiry) calendar
      have expired := isExpired_of_not_hasPlainYear expires notPlain plainYear
      simp [isVisible, expired]
    · simp [other]
  unfold find
  rw [hidden]

/-- A new value changes a row or adds one, even where it gives a scope what it has. -/
theorem IsRecorded.upsert_ne (recorded : table.IsRecorded calendar)
    (storable : calendar.IsStorable) (id : OverrideId) (scope : Scope) (value : Bool)
    (expiresAt : Option Instant) :
    (table.upsert id scope value expiresAt calendar).2 ≠ table := by
  intro same
  have member := table.row_mem_upsert id scope value expiresAt calendar
  rw [same] at member
  obtain ⟨_, _, _, _, writtenAt⟩ := table.upsert_columns id scope value expiresAt calendar
  exact (recorded.rows _ member).ne_of_updatedAt storable writtenAt rfl

/-- Readers look at the row of a scope. -/
private theorem IsRecorded.find_eq_seenAt (recorded : table.IsRecorded calendar) (scope : Scope)
    (now : Instant) :
    table.find scope now =
      match table.row? scope with
      | none => .ok none
      | some row => row.seenAt now := by
  rw [recorded.onePerScope.find_eq]
  cases table.row? scope with
  | none => rfl
  | some row =>
      simp only [Option.filter_some, seenAt]
      cases row.isVisible now.toStored with
      | true => rfl
      | false => rfl

/--
What readers see of a scope: one state or none, and the state as long as it is in force.
Whoever sees anything sees that state, whenever they look.
-/
theorem IsRecorded.find_eq (recorded : table.IsRecorded calendar) (scope : Scope) :
    ∃ state? : Option OverrideValue,
      (∀ now : Instant, now.IsStorable →
        table.find scope now = .ok (state?.filter fun state => state.isActive now)) ∧
      ∀ now state, table.find scope now = .ok (some state) → state? = some state := by
  simp only [recorded.find_eq_seenAt]
  cases found : table.row? scope with
  | none => exact ⟨none, fun _ _ => rfl, fun _ _ isSeen => by cases isSeen⟩
  | some row => exact (recorded.rows row (mem_of_row found).1).seenAt_eq

end OverrideTable

end Switchboard
