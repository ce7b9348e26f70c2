import Switchboard.Proofs.Store.Sweeps

namespace Switchboard

/-!
# Three views of the life of an override

A reader of the store and a sweep decide about a row by its texts, and whoever holds a copy decides
about what was read by its instants.  Texts have whole microseconds and instants have nanoseconds,
and still they decide alike: at the very microsecond of the expiry the override is gone for all of
them, and up to the nanosecond before it is there for all of them.
-/

/-- A row waits to be swept when no reader sees it. -/
theorem OverrideRow.isDead_eq_not_isVisible (row : OverrideRow) (now : String) :
    row.isDead now = !row.isVisible now := by
  cases deleted : row.deletedAt with
  | none => simp [isDead, isVisible, deleted]
  | some text => simp [isDead, isVisible, deleted]

namespace Override

variable {override : Override} {now : Instant}

/-- The row that holds an override. -/
def toRow (override : Override) : OverrideRow where
  id := override.id.written
  environment := override.scope.environment
  key := override.scope.key
  scopeType := override.scope.kind.label
  holder := override.scope.holder
  value := override.value
  expiresAt := override.expiresAt.map Instant.toStored
  deletedAt := override.deletedAt.map Instant.toStored
  createdAt := override.createdAt.toStored
  updatedAt := override.updatedAt.toStored

/-- What its row still tells of an override: its instants in whole microseconds. -/
def toMicros (override : Override) : Override :=
  { override with
    expiresAt := override.expiresAt.map Instant.truncateToMicros
    deletedAt := override.deletedAt.map Instant.truncateToMicros
    createdAt := override.createdAt.truncateToMicros
    updatedAt := override.updatedAt.truncateToMicros }

/-- The override with its instants as a clock shows them. -/
def shown (override : Override) : Override :=
  { override with
    expiresAt := override.expiresAt.map Instant.shown
    deletedAt := override.deletedAt.map Instant.shown
    createdAt := override.createdAt.shown
    updatedAt := override.updatedAt.shown }

/-- All instants of the override have years of four digits. -/
structure HasPlainYears (override : Override) : Prop where
  expiresAt : ∀ expiry ∈ override.expiresAt, expiry.HasPlainYear
  deletedAt : ∀ deletion ∈ override.deletedAt, deletion.HasPlainYear
  createdAt : override.createdAt.HasPlainYear
  updatedAt : override.updatedAt.HasPlainYear

/-- All instants of the override are such as a row tells but for what is below a microsecond. -/
structure IsStorable (override : Override) : Prop where
  expiresAt : ∀ expiry ∈ override.expiresAt, expiry.IsStorable
  deletedAt : ∀ deletion ∈ override.deletedAt, deletion.IsStorable
  createdAt : override.createdAt.IsStorable
  updatedAt : override.updatedAt.IsStorable

/-- In years of four digits, what a clock shows can be stored. -/
theorem HasPlainYears.isStorable_shown (plainYears : override.HasPlainYears) :
    override.shown.IsStorable := by
  have optional {instant? : Option Instant}
      (plain : ∀ instant ∈ instant?, instant.HasPlainYear) :
      ∀ instant ∈ instant?.map Instant.shown, instant.IsStorable := by
    intro instant member
    obtain ⟨origin, isOrigin, rfl⟩ := Option.map_eq_some_iff.mp member
    exact (plain origin isOrigin).isStorable_shown
  exact ⟨optional plainYears.expiresAt, optional plainYears.deletedAt,
    plainYears.createdAt.isStorable_shown, plainYears.updatedAt.isStorable_shown⟩

/-- The row holds what a clock shows. -/
theorem toRow_shown (override : Override) : override.shown.toRow = override.toRow := by
  simp only [toRow, shown, Option.map_map, Function.comp_def, Instant.toStored_shown]

/-! ## Rows -/

/-- The row of an override belongs to its scope. -/
theorem isOf_toRow (override : Override) : override.toRow.isOf override.scope = true :=
  OverrideRow.isOf_iff.mpr ⟨rfl, rfl, rfl, rfl⟩

/-- The row of a storable override is read back. -/
theorem IsStorable.decode_toRow (storable : override.IsStorable) :
    override.toRow.decode = .ok override.toMicros := by
  have expiresAt :=
    OverrideTable.storedOptionalInstant_map_toStored "expires_at" storable.expiresAt
  have deletedAt :=
    OverrideTable.storedOptionalInstant_map_toStored "deleted_at" storable.deletedAt
  have createdAt := Instant.readStrict_toStored storable.createdAt
  have updatedAt := Instant.readStrict_toStored storable.updatedAt
  simp [toRow, toMicros, OverrideRow.decode, OverrideRow.readId, OverrideRow.readKind,
    OverrideId.parse_written, ScopeKind.ofLabel_label, expiresAt, deletedAt, storedInstant,
    createdAt, updatedAt, bind, Except.bind, pure, Except.pure]

/-- A reader of the store sees the row as long as what is read back is active. -/
theorem IsStorable.isVisible_toRow (storable : override.IsStorable) (nowStorable : now.IsStorable) :
    override.toRow.isVisible now.toStored = override.toMicros.isActive now := by
  have expired : override.toRow.isExpired now.toStored = !override.toMicros.state.isActive now :=
    OverrideTable.isExpired_of_written override.value rfl storable.expiresAt nowStorable
  have kept : override.toRow.deletedAt.isNone = override.toMicros.deletedAt.isNone := by
    simp [toRow, toMicros]
  rw [OverrideRow.isVisible, expired, Bool.not_not, kept, isActive]

/-- A sweep waits for the row as soon as what is read back is not active. -/
theorem IsStorable.isDead_toRow (storable : override.IsStorable) (nowStorable : now.IsStorable) :
    override.toRow.isDead now.toStored = !override.toMicros.isActive now := by
  rw [OverrideRow.isDead_eq_not_isVisible, storable.isVisible_toRow nowStorable]

end Override

namespace OverrideTable

variable {table : OverrideTable} {row : OverrideRow} {override : Override} {now : Instant}

/-! ## Rows of histories -/

/-- Every row is the one that holds some override. -/
def HoldsOverrides (table : OverrideTable) : Prop :=
  ∀ row ∈ table.rows, ∃ override : Override, row = override.toRow

/-- The calls of the store write rows of overrides and nothing else. -/
theorem HoldsOverrides.apply (holds : table.HoldsOverrides) (call : OverrideCall) :
    (table.apply call).HoldsOverrides := by
  intro row member
  cases call with
  | upsert id scope value expiresAt writtenAt =>
      rcases mem_upsert member with rfl | ⟨isOld, -⟩
      · rcases table.upsert_row id scope value expiresAt writtenAt with
          isFirst | ⟨stored, isStored, -, isRevived⟩
        · exact ⟨⟨id, scope, value, expiresAt, none, writtenAt, writtenAt⟩, isFirst⟩
        · obtain ⟨override, rfl⟩ := holds stored isStored
          exact ⟨{ override with value, expiresAt, deletedAt := none, updatedAt := writtenAt },
            isRevived⟩
      · exact holds row isOld
  | softDelete scope writtenAt =>
      rcases mem_softDelete member with isOld | ⟨stored, isStored, rfl⟩
      · exact holds row isOld
      · obtain ⟨override, rfl⟩ := holds stored isStored
        exact ⟨{ override with deletedAt := some writtenAt, updatedAt := writtenAt }, rfl⟩
  | listDead listedAt limit => exact holds row member
  | purge sweptAt ids => exact holds row (mem_purge member)

/-- Whatever calls the store gets, its rows are those of overrides. -/
theorem HoldsOverrides.afterCalls (holds : table.HoldsOverrides) (calls : List OverrideCall) :
    (table.afterCalls calls).HoldsOverrides := by
  induction calls generalizing table with
  | nil => exact holds
  | cons call rest inductionHypothesis => exact inductionHypothesis (holds.apply call)

/-! ## Views -/

/--
What a reader finds, what a sweep lists and takes and what the holder of a copy decides about a row
and the override that is read back of it: the same as a clock shows the instant.
-/
structure ViewsAgree (table : OverrideTable) (row : OverrideRow) (override : Override)
    (now : Instant) : Prop where
  visible : row.isVisible now.toStored = override.isActive now.shown
  dead : row.isDead now.toStored = !override.isActive now.shown
  found : table.find override.scope now =
    .ok (if override.isActive now.shown then some override.state else none)
  copied : override.deletedAt = none →
    table.find override.scope now =
      .ok (if override.state.isActive now.shown then some override.state else none)
  listed : ∀ limit, row ∈ table.deadRows now limit → override.isActive now.shown = false
  allListed : ∀ limit, table.deadCount now ≤ limit → override.isActive now.shown = false →
    row ∈ table.deadRows now limit
  purged : ∀ ids, row ∈ (table.purge now ids).2.rows ↔
    (override.id ∈ ids → override.isActive now.shown = true)

/-- A reader finds an active override in its row. -/
theorem OnePerScope.find_toRow (alone : table.OnePerScope) (member : override.toRow ∈ table.rows)
    (storable : override.IsStorable)
    (nowStorable : now.IsStorable) :
    table.find override.scope now =
      .ok (if override.toMicros.isActive now then some override.toMicros.state else none) := by
  have isRow := alone.row_eq_some_iff.mpr ⟨member, override.isOf_toRow⟩
  rw [alone.find_eq, isRow, Option.filter_some, storable.isVisible_toRow nowStorable]
  cases override.toMicros.isActive now with
  | false => rfl
  | true =>
      have expiresAt := storedOptionalInstant_map_toStored "expires_at" storable.expiresAt
      simp [Override.toRow, Override.toMicros, Override.state, expiresAt, bind, Except.bind, pure,
        Except.pure]

/-- A sweep leaves the row of an override that it was not told of, or that is active. -/
theorem mem_purge_toRow_iff (member : override.toRow ∈ table.rows)
    (storable : override.IsStorable)
    (nowStorable : now.IsStorable)
    (ids : List OverrideId) :
    override.toRow ∈ (table.purge now ids).2.rows ↔
      (override.id ∈ ids → override.toMicros.isActive now = true) := by
  have told : ids.any (fun id => override.toRow.id == id.written) = true ↔ override.id ∈ ids := by
    simp only [List.any_eq_true, beq_iff_eq]
    constructor
    · rintro ⟨id, isTold, same⟩
      rwa [OverrideId.written_injective same]
    · exact fun isTold => ⟨override.id, isTold, rfl⟩
  rw [rows_purge, List.mem_filter, isTaken, storable.isDead_toRow nowStorable, Bool.not_eq_true',
    Bool.and_eq_false_imp, told, Bool.not_eq_false']
  exact and_iff_right member

/-- The three views of the row of a storable override agree. -/
private theorem OnePerScope.viewsAgree (alone : table.OnePerScope)
    (member : override.toRow ∈ table.rows)
    (storable : override.IsStorable)
    (nowStorable : now.IsStorable) :
    table.ViewsAgree override.toRow override.toMicros now := by
  have same : now.shown = now := Instant.shown_of_isShown nowStorable.isShown
  have found := alone.find_toRow member storable nowStorable
  have dead := storable.isDead_toRow nowStorable
  constructor
  case visible => rw [same, storable.isVisible_toRow nowStorable]
  case dead => rw [same, dead]
  case found =>
    rw [same]
    exact found
  case copied =>
    intro kept
    rw [same]
    rwa [Override.isActive, kept, Option.isNone_none, Bool.true_and] at found
  case listed =>
    intro limit isListed
    have isDead := (mem_of_mem_deadRows isListed).2
    rw [same]
    rwa [dead, Bool.not_eq_true'] at isDead
  case allListed =>
    intro limit room gone
    rw [same] at gone
    refine mem_deadRows_of_deadCount_le room member ?_
    rw [dead, gone, Bool.not_false]
  case purged =>
    rw [same]
    exact mem_purge_toRow_iff member storable nowStorable

/-- The store is asked for what a clock shows. -/
private theorem ViewsAgree.of_shown (agree : table.ViewsAgree row override now.shown) :
    table.ViewsAgree row override now := by
  have same : now.shown.shown = now.shown := Instant.shown_of_isShown now.isShown_shown
  have finds (scope : Scope) : table.find scope now.shown = table.find scope now := by
    rw [find, find, now.toStored_shown]
  have dead (limit : Nat) : table.deadRows now.shown limit = table.deadRows now limit := by
    rw [deadRows, deadRows, now.toStored_shown]
  have count : table.deadCount now.shown = table.deadCount now := by
    rw [deadCount, deadCount, now.toStored_shown]
  have rows (ids : List OverrideId) :
      (table.purge now.shown ids).2.rows = (table.purge now ids).2.rows := by
    simp only [rows_purge, isTaken, now.toStored_shown]
  obtain ⟨visible, isDead, found, copied, listed, allListed, purged⟩ := agree
  simp only [now.toStored_shown, same, finds, dead, count, rows] at *
  exact ⟨visible, isDead, found, copied, listed, allListed, purged⟩

/--
After any calls of the store every row holds some override.  If the instants of that override
have years of four digits, the row is read back, and at every instant of such a year, down to the
nanosecond and as a clock shows it, a reader finds the override exactly when what is read back is
active, a sweep lists and takes its row exactly when it is not, and a copy of one that was not
cleared decides like the reader.
-/
theorem views_agree (calls : List OverrideCall) :
    let table := afterCalls {} calls
    (∀ row ∈ table.rows, ∃ override : Override, row = override.toRow) ∧
      ∀ override : Override, override.toRow ∈ table.rows → override.HasPlainYears →
        ∃ stored, override.toRow.decode = .ok stored ∧
          ∀ now : Instant, now.HasPlainYear → table.ViewsAgree override.toRow stored now := by
  have holds : HoldsOverrides {} := fun row member => by cases member
  have alone : OnePerScope {} := isSound_empty.onePerScope
  refine ⟨holds.afterCalls calls, fun override member plainYears => ?_⟩
  have storable := plainYears.isStorable_shown
  rw [← override.toRow_shown] at member ⊢
  exact ⟨override.shown.toMicros, storable.decode_toRow, fun now nowPlain =>
    ((alone.afterCalls calls).viewsAgree member storable nowPlain.isStorable_shown).of_shown⟩

namespace LeapSecond

/-- The start of the last day of a year that ends with a leap second. -/
def midnight : Instant :=
  .startOf ⟨2016, 12, 31, by decide⟩

/-- In the leap second at the end of the day, between two microseconds. -/
def expiry : Instant :=
  ⟨⟨2016, 12, 31, by decide⟩, 86399, 1123456789, by decide⟩

/-- The nanosecond before the microsecond in which the expiry lies. -/
def lastMoment : Instant :=
  ⟨⟨2016, 12, 31, by decide⟩, 86399, 1123455999, by decide⟩

/-- Earlier than the expiry, but in its microsecond. -/
def tooLate : Instant :=
  ⟨⟨2016, 12, 31, by decide⟩, 86399, 1123456000, by decide⟩

/-- The override that is given a value until then. -/
def written : Override where
  id := .ofNat 1
  scope := .user "prod" "beta.search" "u1"
  value := true
  expiresAt := some expiry
  deletedAt := none
  createdAt := midnight
  updatedAt := midnight

/-- The only call: it gives the override its value. -/
def calls : List OverrideCall :=
  [.upsert (.ofNat 1) written.scope true (some expiry) midnight]

end LeapSecond

open LeapSecond in
/-- The override is there up to the microsecond of its expiry, and then it is swept. -/
theorem views_agree_leapSecond :
    written.toRow ∈ (afterCalls {} calls).rows ∧ written.HasPlainYears ∧
      lastMoment.IsStorable ∧ tooLate.IsStorable ∧
        (afterCalls {} calls).find written.scope lastMoment =
          .ok (some ⟨true, some expiry.truncateToMicros⟩) ∧
          (afterCalls {} calls).find written.scope tooLate = .ok none ∧
            written.toRow ∉ ((afterCalls {} calls).purge tooLate [written.id]).2.rows := by
  have member : written.toRow ∈ (afterCalls {} calls).rows := List.mem_singleton_self _
  have plainYears : written.HasPlainYears :=
    ⟨by decide, by decide, by decide, by decide⟩
  have before : lastMoment.IsStorable := by decide
  have late : tooLate.IsStorable := by decide
  obtain ⟨stored, reads, agree⟩ := (views_agree calls).2 written member plainYears
  obtain rfl : written.toMicros = stored := Except.ok.inj (Eq.trans (by rfl) reads)
  have active : written.toMicros.isActive lastMoment.shown = true := by decide
  have gone : written.toMicros.isActive tooLate.shown = false := by decide
  refine ⟨member, plainYears, before, late, ?_, ?_, fun stays => ?_⟩
  · exact (agree lastMoment before.plainYear).found.trans (by rw [active]; rfl)
  · exact (agree tooLate late.plainYear).found.trans (by rw [gone]; rfl)
  · have kept :=
      ((agree tooLate late.plainYear).purged [written.id]).mp stays (List.mem_singleton_self _)
    rw [gone] at kept
    cases kept

/-- The expiry lies in the second as which the leap second within a minute is shown. -/
def LeapSecond.withinMinute : Override :=
  { LeapSecond.written with expiresAt := some .fifthSecond }

open LeapSecond in
/--
In a leap second within a minute, which is shown as a later second, a reader does not find the
override any more, and a sweep takes its row, while what is read back of it is still active.
-/
theorem views_differ_withinMinute :
    (afterCalls {} [.upsert (.ofNat 1) written.scope true (some .fifthSecond) midnight]).rows =
        [withinMinute.toRow] ∧
      withinMinute.HasPlainYears ∧ Instant.withinMinute.HasPlainYear ∧
        withinMinute.toRow.decode = .ok withinMinute ∧
          withinMinute.isActive .withinMinute = true ∧
            withinMinute.state.isActive .withinMinute = true ∧
              find ⟨[withinMinute.toRow]⟩ written.scope .withinMinute = .ok none ∧
                (purge ⟨[withinMinute.toRow]⟩ .withinMinute [written.id]).2.rows = [] := by
  refine ⟨rfl, ⟨by decide, by decide, by decide, by decide⟩, by decide, ?_, ?_, ?_, ?_, ?_⟩
  all_goals decide +kernel

end OverrideTable

end Switchboard
