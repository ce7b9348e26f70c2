import Switchboard.Proofs.Store.Overrides
import Switchboard.Proofs.Time.Progress
import Switchboard.Proofs.Time.Unstorable

namespace Switchboard

/-!
# Statements on the table of overrides

What one statement can do to the rows is said once, and from it what every history of
statements leaves true of them, whatever expiries callers write.  A row that is expired
beyond the years of four digits is shown to nobody, and each statement that writes a row
leaves its mark in it.
-/

namespace OverrideRow

/-- Such a row as statements write, the last of them before the calendar shows its instant. -/
structure IsRecorded (row : OverrideRow) (calendar : Instant) : Prop where
  id : ∃ id, OverrideId.parse row.id = some id
  kind : ∃ kind, ScopeKind.ofLabel? row.scopeType = some kind
  expiresAt : ∀ text, row.expiresAt = some text → ∃ expiry : Instant, text = expiry.toStored
  createdAt : ∃ instant, Instant.readStrict row.createdAt = some instant
  updatedAt : ∃ instant : Instant,
    instant.IsStorable ∧ row.updatedAt = instant.toStored ∧ instant.micros < calendar.micros

variable {row : OverrideRow} {calendar now : Instant}

/-- Time passes over a row. -/
theorem IsRecorded.mono {later : Instant} (recorded : row.IsRecorded calendar)
    (ordered : calendar ≤ later) :
    row.IsRecorded later where
  id := recorded.id
  kind := recorded.kind
  expiresAt := recorded.expiresAt
  createdAt := recorded.createdAt
  updatedAt := by
    obtain ⟨instant, storable, written, before⟩ := recorded.updatedAt
    exact ⟨instant, storable, written, Int.lt_of_lt_of_le before (Instant.micros_le_micros ordered)⟩

/-- The expiry that a statement writes is a stored form. -/
private theorem expiry_of_map {expiresAt : Option Instant} (text : String)
    (written : expiresAt.map Instant.toStored = some text) :
    ∃ expiry : Instant, text = expiry.toStored := by
  obtain ⟨expiry, _, rfl⟩ := Option.map_eq_some_iff.mp written
  exact ⟨expiry, rfl⟩

/-- A statement takes a microsecond of the calendar. -/
private theorem updatedAt_now (storable : calendar.IsStorable) :
    ∃ instant : Instant, instant.IsStorable ∧ calendar.toStored = instant.toStored ∧
      instant.micros < calendar.next.micros :=
  ⟨calendar, storable, rfl, Instant.micros_lt_micros_next storable.plainYear.2⟩

/-- The first row of a scope. -/
theorem isRecorded_first (id : OverrideId) (scope : Scope) (value : Bool)
    (expiresAt : Option Instant)
    (storable : calendar.IsStorable) :
    (first id scope value expiresAt calendar).IsRecorded calendar.next where
  id := ⟨id, OverrideId.parse_written id⟩
  kind := ⟨scope.kind, ScopeKind.ofLabel_label scope.kind⟩
  expiresAt := expiry_of_map
  createdAt := ⟨_, Instant.readStrict_toStored storable⟩
  updatedAt := updatedAt_now storable

/-- A row with a new value. -/
theorem IsRecorded.revived (recorded : row.IsRecorded calendar) (value : Bool)
    (expiresAt : Option Instant)
    (storable : calendar.IsStorable) :
    (row.revived value expiresAt calendar).IsRecorded calendar.next where
  id := recorded.id
  kind := recorded.kind
  expiresAt := expiry_of_map
  createdAt := recorded.createdAt
  updatedAt := updatedAt_now storable

/-- A row that was cleared. -/
theorem IsRecorded.cleared (recorded : row.IsRecorded calendar) (storable : calendar.IsStorable) :
    (row.cleared calendar).IsRecorded calendar.next where
  id := recorded.id
  kind := recorded.kind
  expiresAt := recorded.expiresAt
  createdAt := recorded.createdAt
  updatedAt := updatedAt_now storable

/-- A row that a statement wrote differs from what it was before. -/
theorem IsRecorded.ne_of_updatedAt {changed : OverrideRow} (recorded : row.IsRecorded calendar)
    (storable : calendar.IsStorable)
    (written : changed.updatedAt = calendar.toStored) :
    changed ≠ row := by
  rintro rfl
  obtain ⟨instant, instantStorable, shown, before⟩ := recorded.updatedAt
  have earlier : instant.toStored < calendar.toStored := by
    rw [Instant.toStored_lt_iff instantStorable storable,
      Instant.truncateToMicros_lt_truncateToMicros, Instant.lt_iff_rank]
    simp only [Instant.micros, Instant.rank, Instant.truncateToMicros] at before ⊢
    omega
  rw [← shown, written] at earlier
  exact absurd earlier (String.lt_irrefl _)

end OverrideRow

namespace OverrideTable

open OverrideRow

variable {table later : OverrideTable} {calendar after now : Instant} {scope : Scope}

/-! ## What one statement writes -/

/-- The row that a new value leaves is the first of its scope or the one that was there. -/
theorem upsert_row (table : OverrideTable) (id : OverrideId) (scope : Scope) (value : Bool)
    (expiresAt : Option Instant) (now : Instant) :
    (table.upsert id scope value expiresAt now).1 = first id scope value expiresAt now ∨
      ∃ stored ∈ table.rows, stored.isOf scope = true ∧
        (table.upsert id scope value expiresAt now).1 = stored.revived value expiresAt now := by
  unfold OverrideTable.upsert
  cases found : table.row? scope with
  | none => exact .inl rfl
  | some stored =>
      obtain ⟨member, isOf⟩ := mem_of_row found
      exact .inr ⟨stored, member, isOf, rfl⟩

/-- A new value writes one row and leaves the others. -/
theorem mem_upsert {row : OverrideRow} {id : OverrideId} {value : Bool}
    {expiresAt : Option Instant}
    (member : row ∈ (table.upsert id scope value expiresAt now).2.rows) :
    row = (table.upsert id scope value expiresAt now).1 ∨
      row ∈ table.rows ∧ row.isOf scope = false := by
  unfold OverrideTable.upsert at member ⊢
  cases found : table.row? scope with
  | none =>
      rw [found] at member
      rcases List.mem_append.mp member with isOld | isNew
      · unfold row? at found
        exact .inr ⟨isOld, Bool.eq_false_iff.mpr (List.find?_eq_none.mp found row isOld)⟩
      · exact .inl (List.mem_singleton.mp isNew)
  | some stored =>
      rw [found] at member
      obtain ⟨origin, originMember, rfl⟩ := List.mem_map.mp member
      cases isOf : origin.isOf scope with
      | true => exact .inl (if_pos rfl)
      | false => exact .inr ⟨originMember, isOf⟩

/-- The row that a new value leaves is in the table. -/
theorem row_mem_upsert (table : OverrideTable) (id : OverrideId) (scope : Scope) (value : Bool)
    (expiresAt : Option Instant) (now : Instant) :
    (table.upsert id scope value expiresAt now).1 ∈
      (table.upsert id scope value expiresAt now).2.rows := by
  unfold OverrideTable.upsert
  cases found : table.row? scope with
  | none => exact List.mem_append_right _ (List.mem_singleton_self _)
  | some stored =>
      obtain ⟨member, isOf⟩ := mem_of_row found
      exact List.mem_map.mpr ⟨stored, member, if_pos isOf⟩

/-- The written row carries the given expiry, is not cleared and shows when it was written. -/
theorem upsert_columns (table : OverrideTable) (id : OverrideId) (scope : Scope) (value : Bool)
    (expiresAt : Option Instant) (now : Instant) :
    let row := (table.upsert id scope value expiresAt now).1
    row.isOf scope = true ∧ row.value = value ∧
      row.expiresAt = expiresAt.map Instant.toStored ∧ row.deletedAt = none ∧
        row.updatedAt = now.toStored := by
  rcases table.upsert_row id scope value expiresAt now with isFirst | ⟨stored, _, isOf, isRevived⟩
  · rw [isFirst]
    exact ⟨isOf_first id scope value expiresAt now, rfl, rfl, rfl, rfl⟩
  · rw [isRevived]
    exact ⟨isOf, rfl, rfl, rfl, rfl⟩

/-- Clearing a scope writes rows of its own and leaves the others. -/
theorem mem_softDelete {row : OverrideRow} (member : row ∈ (table.softDelete scope now).rows) :
    row ∈ table.rows ∨ ∃ stored ∈ table.rows, row = stored.cleared now := by
  obtain ⟨origin, originMember, rfl⟩ := List.mem_map.mp member
  split
  · exact .inr ⟨origin, originMember, rfl⟩
  · exact .inl originMember

/-- Whether a sweep for some identifiers takes a row. -/
def isTaken (now : Instant) (ids : List OverrideId) (row : OverrideRow) : Bool :=
  ids.any (fun id => row.id == id.written) && row.isDead now.toStored

/-- A sweep leaves the rows that it does not take. -/
theorem rows_purge (table : OverrideTable) (now : Instant) (ids : List OverrideId) :
    (table.purge now ids).2.rows = table.rows.filter fun row => !isTaken now ids row := by
  induction ids generalizing table with
  | nil => exact (List.filter_eq_self.mpr fun _ _ => rfl).symm
  | cons id rest inductionHypothesis =>
      refine (inductionHypothesis (table.purgeOne now id).2).trans ?_
      simp only [purgeOne, List.filter_filter]
      congr 1
      funext row
      simp only [isTaken, List.any_cons]
      cases row.isDead now.toStored with
      | true => simp [Bool.and_comm]
      | false => simp

/-- A sweep counts the rows that it takes. -/
theorem count_purge (table : OverrideTable) (now : Instant) (ids : List OverrideId) :
    (table.purge now ids).1 + (table.purge now ids).2.rows.length = table.rows.length := by
  induction ids generalizing table with
  | nil => exact Nat.zero_add _
  | cons id rest inductionHypothesis =>
      have one : (table.purgeOne now id).1 + (table.purgeOne now id).2.rows.length =
          table.rows.length := by
        have split := List.length_eq_countP_add_countP
          (fun row => row.id == id.written && row.isDead now.toStored) (l := table.rows)
        simpa only [purgeOne, List.countP_eq_length_filter, decide_not, Bool.decide_eq_true] using
          split.symm
      have later := inductionHypothesis (table.purgeOne now id).2
      simp only [purge]
      omega

/-- A sweep leaves nothing new. -/
theorem mem_purge {row : OverrideRow} {ids : List OverrideId}
    (member : row ∈ (table.purge now ids).2.rows) : row ∈ table.rows := by
  rw [rows_purge] at member
  exact (List.mem_filter.mp member).1

/-! ## Histories of statements -/

/--
What one request does to the table and to the calendar.  A new value is given to scopes
that are allowed.
-/
inductive Step (allowed : Scope → Prop) (table : OverrideTable) (calendar : Instant) :
    OverrideTable → Instant → Prop where
  | still : Step allowed table calendar table calendar
  | tick : Step allowed table calendar table calendar.next
  | upsert (id : OverrideId) {scope : Scope} (value : Bool) (expiresAt : Option Instant)
      (isAllowed : allowed scope) :
      Step allowed table calendar (table.upsert id scope value expiresAt calendar).2 calendar.next
  | softDelete (scope : Scope) :
      Step allowed table calendar (table.softDelete scope calendar) calendar.next
  | purge (sweptAt : Instant) (ids : List OverrideId) :
      Step allowed table calendar (table.purge sweptAt ids).2 calendar

variable {allowed : Scope → Prop}

/-- No statement takes the calendar back. -/
theorem Step.ordered (step : Step allowed table calendar later after) : calendar ≤ after := by
  cases step with
  | still => exact Int.le_refl _
  | tick => exact calendar.le_next
  | upsert id value expiresAt isAllowed => exact calendar.le_next
  | softDelete scope => exact calendar.le_next
  | purge sweptAt ids => exact Int.le_refl _

/-- A statement leaves a calendar that a clock shows at an instant that one shows. -/
theorem Step.isShown (step : Step allowed table calendar later after)
    (isShown : calendar.IsShown) : after.IsShown := by
  cases step with
  | still => exact isShown
  | tick => exact isShown.next
  | upsert id value expiresAt isAllowed => exact isShown.next
  | softDelete scope => exact isShown.next
  | purge sweptAt ids => exact isShown

/-- The rows are such as statements leave them, one for each scope. -/
structure IsRecorded (table : OverrideTable) (calendar : Instant) : Prop where
  onePerScope : table.OnePerScope
  rows : ∀ row ∈ table.rows, row.IsRecorded calendar

theorem isRecorded_empty (calendar : Instant) : IsRecorded {} calendar where
  onePerScope := List.Pairwise.nil
  rows _ member := by cases member

/-- Time passes over the rows. -/
theorem IsRecorded.mono (recorded : table.IsRecorded calendar) (ordered : calendar ≤ after) :
    table.IsRecorded after where
  onePerScope := recorded.onePerScope
  rows row member := (recorded.rows row member).mono ordered

/-- The row that a new value leaves. -/
theorem IsRecorded.upsert_row (recorded : table.IsRecorded calendar)
    (storable : calendar.IsStorable) (id : OverrideId) (scope : Scope) (value : Bool)
    (expiresAt : Option Instant) :
    (table.upsert id scope value expiresAt calendar).1.IsRecorded calendar.next := by
  rcases table.upsert_row id scope value expiresAt calendar with
    isFirst | ⟨stored, member, _, isRevived⟩
  · rw [isFirst]
    exact isRecorded_first id scope value expiresAt storable
  · rw [isRevived]
    exact (recorded.rows stored member).revived value expiresAt storable

/-- Every statement leaves such rows, whatever it writes. -/
theorem IsRecorded.step (recorded : table.IsRecorded calendar) (storable : calendar.IsStorable)
    (step : Step allowed table calendar later after) :
    later.IsRecorded after := by
  have kept := recorded.mono step.ordered
  cases step with
  | still => exact kept
  | tick => exact kept
  | upsert id value expiresAt isAllowed =>
      refine ⟨recorded.onePerScope.upsert id _ value expiresAt calendar, fun row member => ?_⟩
      rcases mem_upsert member with rfl | ⟨isOld, _⟩
      · exact recorded.upsert_row storable id _ value expiresAt
      · exact kept.rows row isOld
  | softDelete scope =>
      refine ⟨recorded.onePerScope.softDelete scope calendar, fun row member => ?_⟩
      rcases mem_softDelete member with isOld | ⟨stored, storedMember, rfl⟩
      · exact kept.rows row isOld
      · exact (recorded.rows stored storedMember).cleared storable
  | purge sweptAt ids =>
      refine ⟨recorded.onePerScope.purge sweptAt ids, fun row member => ?_⟩
      exact kept.rows row (mem_purge member)

/-- Statements for allowed scopes leave rows of no others. -/
theorem HasOnly.step (only : table.HasOnly allowed)
    (step : Step allowed table calendar later after) :
    later.HasOnly allowed := by
  cases step with
  | still => exact only
  | tick => exact only
  | upsert id value expiresAt isAllowed => exact hasOnly_upsert_iff.mpr ⟨only, isAllowed⟩
  | softDelete scope => exact hasOnly_softDelete_iff.mpr only
  | purge sweptAt ids => exact only.purge sweptAt ids

end OverrideTable

end Switchboard
