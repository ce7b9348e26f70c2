import Mathlib.Data.List.Nodup
import Switchboard.Proofs.Store.LastWrite
import Switchboard.Proofs.Store.Shown

namespace Switchboard

/-!
# What a sweep takes

Rows keep the identifiers under which they were first written, and no identifier is issued
twice, so a sweep takes exactly the rows that it listed.  It lists as many rows as it may of
those that wait for it, those first that were not changed for the longest time; but it fails,
and takes nothing, where it cannot read one of them.
-/

namespace OverrideId

/-- Numbers that agree in their last hexadecimal digits agree in what the digits say. -/
private theorem mod_pow_eq_of_digits {first second count : Nat}
    (same : ∀ place < count, first / 16 ^ place % 16 = second / 16 ^ place % 16) :
    first % 16 ^ count = second % 16 ^ count := by
  induction count with
  | zero => simp [Nat.mod_one]
  | succ count inductionHypothesis =>
      have earlier := inductionHypothesis fun place below => same place (Nat.lt_succ_of_lt below)
      rw [Nat.mod_pow_succ, Nat.mod_pow_succ, earlier, same count (Nat.lt_succ_self count)]

/-- Two numbers under one identifier are an identifier's length apart. -/
theorem mod_eq_of_ofNat_eq {first second : Nat} (same : ofNat first = ofNat second) :
    first % 16 ^ (32 : Nat) = second % 16 ^ (32 : Nat) := by
  have digits (number : Nat) : (ofNat number).digits =
      (List.range 32).map fun place => Fin.ofNat 16 (number / 16 ^ (31 - place)) :=
    List.take_left' (by simp)
  have listed := congrArg OverrideId.digits same
  rw [digits, digits, List.map_inj_left] at listed
  refine mod_pow_eq_of_digits fun place below => ?_
  have shown := listed (31 - place) (List.mem_range.mpr (by omega))
  have placed : 31 - (31 - place) = place := by omega
  rw [placed] at shown
  exact congrArg Fin.val shown

/-- The written form tells the identifier. -/
theorem written_injective {first second : OverrideId} (same : first.written = second.written) :
    first = second := by
  have read := parse_written first
  rw [same, parse_written] at read
  exact (Option.some.inj read).symm

end OverrideId

/-- A stored form is not after another when what a clock shows, down to the microsecond, is not. -/
theorem Instant.toStored_le_iff {instant bound : Instant}
    (plainYear : instant.HasPlainYear)
    (boundStorable : bound.IsStorable) :
    instant.toStored ≤ bound.toStored ↔ instant.shown.truncateToMicros ≤ bound := by
  rw [← toStored_shown, ← Std.not_lt, toStored_lt_iff boundStorable plainYear.isStorable_shown,
    truncateToMicros_lt_truncateToMicros]
  exact Int.not_lt

namespace OverrideRow

variable {row : OverrideRow} {calendar now : Instant}

private theorem ok_of_bind {first : Except ε α} {next : α → Except ε β} {result : β}
    (ended : first >>= next = .ok result) :
    ∃ value, first = .ok value ∧ next value = .ok result := by
  cases first with
  | error error => cases ended
  | ok value => exact ⟨value, rfl, ended⟩

/-- What is read of a row tells its columns. -/
structure Reads (row : OverrideRow) (override : Override) : Prop where
  id : row.readId = .ok override.id
  kind : row.readKind = .ok override.scope.kind
  environment : row.environment = override.scope.environment
  key : row.key = override.scope.key
  holder : row.holder = override.scope.holder
  value : row.value = override.value
  expiresAt : storedOptionalInstant "expires_at" row.expiresAt = .ok override.expiresAt
  deletedAt : storedOptionalInstant "deleted_at" row.deletedAt = .ok override.deletedAt

theorem reads_of_decode {override : Override} (read : row.decode = .ok override) :
    row.Reads override := by
  obtain ⟨id, readsId, read⟩ := ok_of_bind read
  obtain ⟨kind, readsKind, read⟩ := ok_of_bind read
  obtain ⟨expiresAt, readsExpiry, read⟩ := ok_of_bind read
  obtain ⟨deletedAt, readsDeletion, read⟩ := ok_of_bind read
  obtain ⟨createdAt, -, read⟩ := ok_of_bind read
  obtain ⟨updatedAt, -, read⟩ := ok_of_bind read
  cases read
  exact ⟨readsId, readsKind, rfl, rfl, rfl, rfl, readsExpiry, readsDeletion⟩

/-- What is read of the row of a scope has that scope. -/
theorem Reads.scope_eq {override : Override} {scope : Scope} (reads : row.Reads override)
    (isOf : row.isOf scope = true) :
    override.scope = scope := by
  obtain ⟨environment, key, kind, holder⟩ := isOf_iff.mp isOf
  have sameKind : override.scope.kind = scope.kind := by
    have named := reads.kind
    rw [readKind, kind, ScopeKind.ofLabel_label] at named
    exact (Except.ok.inj named).symm
  obtain ⟨id, ⟨otherEnvironment, otherKey, otherKind, otherHolder⟩, _⟩ := override
  obtain ⟨ownEnvironment, ownKey, ownKind, ownHolder⟩ := scope
  simp only [Scope.mk.injEq]
  exact ⟨reads.environment.symm.trans environment, reads.key.symm.trans key, sameKind,
    reads.holder.symm.trans holder⟩

/-- An expiry that is stored is not one without a year of four digits. -/
theorem HasStoredExpiry.hasPlainYear (stored : row.HasStoredExpiry) {expiry : Instant}
    (expires : row.expiresAt = some expiry.toStored) :
    expiry.HasPlainYear := by
  refine Decidable.byContradiction fun notPlain => ?_
  obtain ⟨other, storable, same⟩ := stored _ expires
  have unread := Instant.readStrict_toStored_eq_none notPlain
  rw [same, Instant.readStrict_toStored storable] at unread
  cases unread

/-- The expiry of a recorded row is stored when its year has four digits. -/
theorem IsRecorded.hasStoredExpiry_iff (recorded : row.IsRecorded calendar) :
    row.HasStoredExpiry ↔
      ∀ expiry : Instant, row.expiresAt = some expiry.toStored → expiry.HasPlainYear := by
  refine ⟨fun stored _ => stored.hasPlainYear, fun plainYear text expires => ?_⟩
  obtain ⟨expiry, rfl⟩ := recorded.expiresAt text expires
  exact ⟨expiry.shown, (plainYear expiry expires).isStorable_shown, expiry.toStored_shown.symm⟩

/-- A recorded row waits to be swept when it was cleared, or its expiry is past or unreadable. -/
theorem IsRecorded.isDead_iff (recorded : row.IsRecorded calendar) (storable : now.IsStorable) :
    row.isDead now.toStored = true ↔
      row.deletedAt ≠ none ∨
        ∃ expiry : Instant, row.expiresAt = some expiry.toStored ∧
          (expiry.HasPlainYear → expiry.shown.truncateToMicros ≤ now) := by
  have expired : row.isExpired now.toStored = true ↔
      ∃ expiry : Instant, row.expiresAt = some expiry.toStored ∧
        (expiry.HasPlainYear → expiry.shown.truncateToMicros ≤ now) := by
    unfold isExpired
    cases expires : row.expiresAt with
    | none => simp
    | some text =>
        obtain ⟨written, rfl⟩ := recorded.expiresAt text expires
        simp only [Option.any_some, decide_eq_true_eq]
        constructor
        · intro ordered
          exact ⟨written, rfl, fun writtenPlain =>
            (Instant.toStored_le_iff writtenPlain storable).mp ordered⟩
        · rintro ⟨expiry, same, past⟩
          rw [Option.some.inj same]
          by_cases expiryPlain : expiry.HasPlainYear
          · exact (Instant.toStored_le_iff expiryPlain storable).mpr (past expiryPlain)
          · exact Std.le_of_lt
              (Instant.toStored_lt_toStored_of_not_hasPlainYear expiryPlain storable.plainYear)
  rw [isDead, Bool.or_eq_true, expired, Option.isSome_iff_ne_none]

/-- Rows are read back one by one, with their identifiers. -/
private theorem mapM_decode_of_readable {rows : List OverrideRow}
    (readable : ∀ row ∈ rows, row.IsReadable ∧ ∃ id : OverrideId, row.id = id.written) :
    ∃ overrides, rows.mapM decode = .ok overrides ∧
      overrides.map (fun override => override.id.written) = rows.map OverrideRow.id := by
  induction rows with
  | nil => exact ⟨[], rfl, rfl⟩
  | cons row rest inductionHypothesis =>
      obtain ⟨⟨rowReadable, id, written⟩, restReadable⟩ := List.forall_mem_cons.mp readable
      obtain ⟨override, reads⟩ := rowReadable.decode
      obtain ⟨overrides, readsRest, ids⟩ := inductionHypothesis restReadable
      have sameId : override.id = id := by
        have readsId := (reads_of_decode reads).id
        rw [readId, written, OverrideId.parse_written] at readsId
        exact (Except.ok.inj readsId).symm
      refine ⟨override :: overrides, ?_, ?_⟩
      · rw [List.mapM_cons, reads, readsRest]
        rfl
      · rw [List.map_cons, List.map_cons, ids, sameId, written]

/-- One row that is not read back makes the reading of all fail. -/
private theorem mapM_decode_of_unreadable {rows : List OverrideRow} {error : ServiceError}
    (each : ∀ row ∈ rows,
      (∃ override, row.decode = .ok override) ∨ row.decode = .error error)
    (unread : ∃ row ∈ rows, row.decode = .error error) :
    rows.mapM decode = .error error := by
  induction rows with
  | nil =>
      obtain ⟨row, member, _⟩ := unread
      cases member
  | cons row rest inductionHypothesis =>
      obtain ⟨first, restEach⟩ := List.forall_mem_cons.mp each
      rw [List.mapM_cons]
      rcases first with ⟨override, reads⟩ | fails
      · have unreadRest : ∃ row ∈ rest, row.decode = .error error := by
          obtain ⟨other, member, fails⟩ := unread
          rcases List.mem_cons.mp member with rfl | later
          · rw [reads] at fails
            cases fails
          · exact ⟨other, later, fails⟩
        rw [reads, inductionHypothesis restEach unreadRest]
        rfl
      · rw [fails]
        rfl

end OverrideRow

namespace OverrideTable

open OverrideRow

variable {table : OverrideTable} {calendar now : Instant} {scope : Scope}

/-! ## Identifiers -/

/-- The identifiers of all rows. -/
def ids (table : OverrideTable) : List String :=
  table.rows.map OverrideRow.id

/-- A new value leaves the identifiers, and may add its own. -/
theorem OnePerScope.ids_upsert (alone : table.OnePerScope) (id : OverrideId) (scope : Scope)
    (value : Bool) (expiresAt : Option Instant) (now : Instant) :
    (table.upsert id scope value expiresAt now).2.ids = table.ids ∨
      (table.upsert id scope value expiresAt now).2.ids = table.ids ++ [id.written] := by
  unfold OverrideTable.upsert ids
  cases found : table.row? scope with
  | none => exact .inr (List.map_append ..)
  | some stored =>
      left
      rw [List.map_map]
      refine List.map_congr_left fun row member => ?_
      simp only [Function.comp_apply]
      split
      · rename_i isOf
        have isStored := alone.row_eq_some_iff.mpr ⟨member, isOf⟩
        rw [found] at isStored
        cases isStored
        rfl
      · rfl

/-- Clearing a scope leaves the identifiers. -/
theorem ids_softDelete (table : OverrideTable) (scope : Scope) (now : Instant) :
    (table.softDelete scope now).ids = table.ids := by
  unfold OverrideTable.softDelete ids
  rw [List.map_map]
  refine List.map_congr_left fun row _ => ?_
  simp only [Function.comp_apply]
  split <;> rfl

/-- A sweep only takes identifiers away. -/
theorem ids_purge (table : OverrideTable) (now : Instant) (ids : List OverrideId) :
    (table.purge now ids).2.ids.Sublist table.ids := by
  rw [OverrideTable.ids, rows_purge]
  exact List.filter_sublist.map OverrideRow.id

/-- Every identifier is one of those that were issued, and none is there twice. -/
structure IsNumbered (table : OverrideTable) (first last : Nat) : Prop where
  ordered : first ≤ last
  issued : ∀ text ∈ table.ids, ∃ number, first < number ∧ number ≤ last ∧
    text = (OverrideId.ofNat number).written
  distinct : table.ids.Nodup

theorem isNumbered_empty (issued : Nat) : IsNumbered {} issued issued where
  ordered := Nat.le_refl issued
  issued _ member := by cases member
  distinct := List.nodup_nil

variable {first last : Nat}

/-- Fewer identifiers stay numbered. -/
theorem IsNumbered.of_sublist {fewer : OverrideTable} (numbered : table.IsNumbered first last)
    (ids : fewer.ids.Sublist table.ids) :
    fewer.IsNumbered first last where
  ordered := numbered.ordered
  issued text member := numbered.issued text (ids.subset member)
  distinct := numbered.distinct.sublist ids

/-- A new value takes the next number, which nobody has while fewer are issued than there are. -/
theorem IsNumbered.upsert (numbered : table.IsNumbered first last) (alone : table.OnePerScope)
    (room : last < first + 16 ^ (32 : Nat)) (scope : Scope) (value : Bool)
    (expiresAt : Option Instant) (now : Instant) :
    (table.upsert (OverrideId.ofNat (last + 1)) scope value expiresAt now).2.IsNumbered first
      (last + 1) := by
  have ordered := numbered.ordered
  have earlier : ∀ text ∈ table.ids, ∃ number, first < number ∧ number ≤ last + 1 ∧
      text = (OverrideId.ofNat number).written := by
    intro text member
    obtain ⟨number, after, before, rfl⟩ := numbered.issued text member
    exact ⟨number, after, Nat.le_succ_of_le before, rfl⟩
  rcases alone.ids_upsert (OverrideId.ofNat (last + 1)) scope value expiresAt now with ids | ids
  · exact ⟨Nat.le_succ_of_le ordered, by rwa [ids], by rw [ids]; exact numbered.distinct⟩
  · have unused : (OverrideId.ofNat (last + 1)).written ∉ table.ids := by
      intro member
      obtain ⟨number, after, before, same⟩ := numbered.issued _ member
      have remainders := OverrideId.mod_eq_of_ofNat_eq (OverrideId.written_injective same)
      omega
    refine ⟨Nat.le_succ_of_le ordered, fun text member => ?_, ?_⟩
    · rw [ids] at member
      rcases List.mem_append.mp member with isOld | isNew
      · exact earlier text isOld
      · exact ⟨last + 1, by omega, Nat.le_refl _, List.mem_singleton.mp isNew⟩
    · rw [ids, List.nodup_append]
      refine ⟨numbered.distinct, List.nodup_singleton _, fun text member other isNew => ?_⟩
      rw [List.mem_singleton.mp isNew]
      rintro rfl
      exact unused member

/-! ## The instants of clearing -/

/-- Every instant of clearing is read back. -/
def HasReadDeletions (table : OverrideTable) : Prop :=
  ∀ row ∈ table.rows, ∀ text, row.deletedAt = some text →
    ∃ instant, Instant.readStrict text = some instant

theorem hasReadDeletions_empty : HasReadDeletions {} := by
  intro row member
  cases member

/-- Whatever statements do while the calendar is storable, they clear at stored instants. -/
theorem HasReadDeletions.step {allowed : Scope → Prop} {later : OverrideTable} {after : Instant}
    (deletions : table.HasReadDeletions)
    (storable : calendar.IsStorable)
    (step : Step allowed table calendar later after) :
    later.HasReadDeletions := by
  cases step with
  | still => exact deletions
  | tick => exact deletions
  | @upsert id scope value expiresAt isAllowed =>
      intro row member text deleted
      rcases mem_upsert member with rfl | ⟨isOld, _⟩
      · obtain ⟨_, _, _, kept, _⟩ := table.upsert_columns id scope value expiresAt calendar
        rw [kept] at deleted
        cases deleted
      · exact deletions row isOld text deleted
  | softDelete scope =>
      intro row member text deleted
      rcases mem_softDelete member with isOld | ⟨stored, _, rfl⟩
      · exact deletions row isOld text deleted
      · cases deleted
        exact ⟨_, Instant.readStrict_toStored storable⟩
  | purge sweptAt ids =>
      exact fun row member => deletions row (mem_purge member)

/-! ## The rows that wait to be swept -/

/-- How many rows wait to be swept. -/
def deadCount (table : OverrideTable) (now : Instant) : Nat :=
  table.rows.countP fun row => row.isDead now.toStored

/-- The rows that wait to be swept, in the order in which they are listed. -/
private def deadInOrder (table : OverrideTable) (now : Instant) : List OverrideRow :=
  (table.rows.filter fun row => row.isDead now.toStored).mergeSort
    fun first second => decide (first.updatedAt ≤ second.updatedAt)

private theorem deadInOrder_perm (table : OverrideTable) (now : Instant) :
    (table.deadInOrder now).Perm (table.rows.filter fun row => row.isDead now.toStored) :=
  List.mergeSort_perm _ _

private theorem mem_deadInOrder {row : OverrideRow} :
    row ∈ table.deadInOrder now ↔ row ∈ table.rows ∧ row.isDead now.toStored = true :=
  (table.deadInOrder_perm now).mem_iff.trans List.mem_filter

/-- The listed rows wait to be swept. -/
theorem mem_of_mem_deadRows {row : OverrideRow} {limit : Nat}
    (member : row ∈ table.deadRows now limit) :
    row ∈ table.rows ∧ row.isDead now.toStored = true :=
  mem_deadInOrder.mp (List.mem_of_mem_take member)

/-- As many rows are listed as the limit allows. -/
theorem length_deadRows (table : OverrideTable) (now : Instant) (limit : Nat) :
    (table.deadRows now limit).length = min limit (table.deadCount now) := by
  show ((table.deadInOrder now).take limit).length = _
  rw [List.length_take, (table.deadInOrder_perm now).length_eq, deadCount,
    List.countP_eq_length_filter]

/-- A list that has room for all rows that wait to be swept has them all. -/
theorem mem_deadRows_of_deadCount_le {row : OverrideRow} {limit : Nat}
    (room : table.deadCount now ≤ limit)
    (member : row ∈ table.rows)
    (dead : row.isDead now.toStored = true) :
    row ∈ table.deadRows now limit := by
  have whole : (table.deadInOrder now).length ≤ limit := by
    rwa [(table.deadInOrder_perm now).length_eq, ← List.countP_eq_length_filter]
  show row ∈ (table.deadInOrder now).take limit
  rw [List.take_of_length_le whole]
  exact mem_deadInOrder.mpr ⟨member, dead⟩

/-- A row that waits to be swept and is not listed was not changed before one that is. -/
theorem updatedAt_le_of_mem_deadRows {row left : OverrideRow} {limit : Nat}
    (listed : row ∈ table.deadRows now limit)
    (member : left ∈ table.rows)
    (dead : left.isDead now.toStored = true)
    (unlisted : left ∉ table.deadRows now limit) :
    row.updatedAt ≤ left.updatedAt := by
  have sorted : (table.deadInOrder now).Pairwise fun first second =>
      decide (first.updatedAt ≤ second.updatedAt) = true := by
    refine List.pairwise_mergeSort (fun first second third before after => ?_)
      (fun first second => ?_) _
    · simp only [decide_eq_true_eq] at before after ⊢
      exact String.le_trans before after
    · simp only [Bool.or_eq_true, decide_eq_true_eq]
      exact String.le_total first.updatedAt second.updatedAt
  rw [← List.take_append_drop limit (table.deadInOrder now)] at sorted
  have waits := mem_deadInOrder.mpr ⟨member, dead⟩
  rw [← List.take_append_drop limit (table.deadInOrder now)] at waits
  have later := (List.mem_append.mp waits).resolve_left unlisted
  exact of_decide_eq_true ((List.pairwise_append.mp sorted).2.2 row listed left later)

/-- No row is listed twice where no identifier is. -/
private theorem nodup_deadRows (distinct : table.ids.Nodup) (now : Instant) (limit : Nat) :
    (table.deadRows now limit).Nodup := by
  have rows : table.rows.Nodup := List.Nodup.of_map OverrideRow.id distinct
  have waiting := (table.deadInOrder_perm now).nodup_iff.mpr (rows.filter _)
  exact waiting.sublist (List.take_sublist _ _)

/-- A sweep for what was listed takes the listed rows, where no identifier is there twice. -/
theorem rows_purge_of_listed {listed : List OverrideId} {limit : Nat}
    (distinct : table.ids.Nodup)
    (ids : listed.map OverrideId.written = (table.deadRows now limit).map OverrideRow.id) :
    table.rows.Perm (table.deadRows now limit ++ (table.purge now listed).2.rows) := by
  have taken {row : OverrideRow} (member : row ∈ table.rows) :
      isTaken now listed row = true ↔ row ∈ table.deadRows now limit := by
    have named : listed.any (fun id => row.id == id.written) = true ↔
        row.id ∈ (table.deadRows now limit).map OverrideRow.id := by
      simp only [← ids, List.any_eq_true, List.mem_map, beq_iff_eq, eq_comm (a := row.id)]
    rw [isTaken, Bool.and_eq_true, named]
    constructor
    · rintro ⟨isNamed, _⟩
      obtain ⟨other, otherListed, sameId⟩ := List.mem_map.mp isNamed
      have same := List.inj_on_of_nodup_map distinct (mem_of_mem_deadRows otherListed).1 member
        sameId
      exact same ▸ otherListed
    · exact fun isListed => ⟨List.mem_map_of_mem isListed, (mem_of_mem_deadRows isListed).2⟩
  have rows : table.rows.Nodup := List.Nodup.of_map OverrideRow.id distinct
  have takes : (table.rows.filter (isTaken now listed)).Perm (table.deadRows now limit) := by
    refine (List.perm_ext_iff_of_nodup (rows.filter _) (nodup_deadRows distinct now limit)).mpr
      fun row => ?_
    rw [List.mem_filter]
    constructor
    · rintro ⟨member, isTaken⟩
      exact (taken member).mp isTaken
    · intro isListed
      have member := (mem_of_mem_deadRows isListed).1
      exact ⟨member, (taken member).mpr isListed⟩
  rw [rows_purge]
  exact (List.filter_append_perm (isTaken now listed) table.rows).symm.trans
    (takes.append_right _)

/-! ## What a listing gives -/

/-- A recorded row with a stored expiry is read back as a whole. -/
private theorem IsRecorded.isReadable {row : OverrideRow} (recorded : table.IsRecorded calendar)
    (deletions : table.HasReadDeletions)
    (member : row ∈ table.rows)
    (stored : row.HasStoredExpiry) :
    row.IsReadable where
  id := (recorded.rows row member).id
  kind := (recorded.rows row member).kind
  expiresAt := stored
  deletedAt := deletions row member
  createdAt := (recorded.rows row member).createdAt
  updatedAt := by
    obtain ⟨instant, storable, written, _⟩ := (recorded.rows row member).updatedAt
    exact ⟨_, written ▸ Instant.readStrict_toStored storable⟩

/-- The rows that wait to be swept are listed under their identifiers if all of them are read. -/
theorem listDead_of_readable {limit : Nat}
    (recorded : table.IsRecorded calendar)
    (deletions : table.HasReadDeletions)
    (numbered : table.IsNumbered first last)
    (readable : ∀ row ∈ table.deadRows now limit, row.HasStoredExpiry) :
    ∃ listed, table.listDead now limit = .ok listed ∧
      (listed.map Override.id).map OverrideId.written =
        (table.deadRows now limit).map OverrideRow.id := by
  have each : ∀ row ∈ table.deadRows now limit,
      row.IsReadable ∧ ∃ id : OverrideId, row.id = id.written := by
    intro row listed
    have member := (mem_of_mem_deadRows listed).1
    obtain ⟨number, _, _, id⟩ := numbered.issued row.id (List.mem_map_of_mem member)
    exact ⟨recorded.isReadable deletions member (readable row listed), _, id⟩
  obtain ⟨listed, reads, ids⟩ := mapM_decode_of_readable each
  exact ⟨listed, reads, by rwa [List.map_map]⟩

/-- No row is listed if one of those that would be is not read. -/
theorem listDead_of_unreadable {limit : Nat}
    (recorded : table.IsRecorded calendar)
    (deletions : table.HasReadDeletions)
    (unreadable : ¬∀ row ∈ table.deadRows now limit, row.HasStoredExpiry) :
    table.listDead now limit = .error (.internal "Invalid expires_at") := by
  have fails {row : OverrideRow} (member : row ∈ table.rows) (unstored : ¬row.HasStoredExpiry) :
      row.decode = .error (.internal "Invalid expires_at") := by
    rw [(recorded.rows row member).hasStoredExpiry_iff] at unstored
    push Not at unstored
    obtain ⟨expiry, expires, notPlain⟩ := unstored
    exact (recorded.rows row member).decode_of_not_hasPlainYear expires notPlain
  refine mapM_decode_of_unreadable (fun row listed => ?_) ?_
  · have member := (mem_of_mem_deadRows listed).1
    by_cases stored : row.HasStoredExpiry
    · exact .inl (recorded.isReadable deletions member stored).decode
    · exact .inr (fails member stored)
  · push Not at unreadable
    obtain ⟨row, listed, unstored⟩ := unreadable
    exact ⟨row, listed, fails (mem_of_mem_deadRows listed).1 unstored⟩

/-! ## What a sweep takes -/

/--
Between two tables as many rows were taken as the limit allows of those that wait, and none
of them was changed after a row that still waits.
-/
structure Takes (before : OverrideTable) (now : Instant) (limit : Nat)
    (taken : List OverrideRow) (after : OverrideTable) : Prop where
  rows : before.rows.Perm (taken ++ after.rows)
  dead : ∀ row ∈ taken, row.isDead now.toStored = true
  count : taken.length = min limit (before.deadCount now)
  oldest : ∀ row ∈ taken, ∀ left ∈ after.rows, left.isDead now.toStored = true →
    ∃ takenAt leftAt, Instant.readStrict row.updatedAt = some takenAt ∧
      Instant.readStrict left.updatedAt = some leftAt ∧ takenAt ≤ leftAt

/-- A sweep takes what was listed for it; no row is there twice, so what is left was not listed. -/
theorem takes_of_listed {listed : List OverrideId} {limit : Nat}
    (recorded : table.IsRecorded calendar)
    (numbered : table.IsNumbered first last)
    (ids : listed.map OverrideId.written = (table.deadRows now limit).map OverrideRow.id) :
    table.Takes now limit (table.deadRows now limit) (table.purge now listed).2 := by
  have rows := rows_purge_of_listed numbered.distinct ids
  refine ⟨rows, fun row taken => (mem_of_mem_deadRows taken).2, table.length_deadRows now limit,
    fun row taken left member dead => ?_⟩
  have distinct : (table.deadRows now limit ++ (table.purge now listed).2.rows).Nodup :=
    rows.nodup (List.Nodup.of_map OverrideRow.id numbered.distinct)
  have unlisted : left ∉ table.deadRows now limit :=
    fun isListed => (List.nodup_append.mp distinct).2.2 left isListed left member rfl
  have wasThere := mem_purge member
  have ordered := updatedAt_le_of_mem_deadRows taken wasThere dead unlisted
  obtain ⟨takenAt, takenStorable, takenText, _⟩ :=
    (recorded.rows row (mem_of_mem_deadRows taken).1).updatedAt
  obtain ⟨leftAt, leftStorable, leftText, _⟩ := (recorded.rows left wasThere).updatedAt
  rw [takenText, leftText] at ordered ⊢
  refine ⟨_, _, Instant.readStrict_toStored takenStorable,
    Instant.readStrict_toStored leftStorable, ?_⟩
  rw [← Std.not_lt, Instant.toStored_lt_iff leftStorable takenStorable] at ordered
  exact Int.not_lt.mp ordered

/-- A sweep counts the rows that were listed for it. -/
theorem count_purge_of_listed {listed : List OverrideId} {limit : Nat}
    (distinct : table.ids.Nodup)
    (ids : listed.map OverrideId.written = (table.deadRows now limit).map OverrideRow.id) :
    (table.purge now listed).1 = (table.deadRows now limit).length := by
  have counted := table.count_purge now listed
  have rows := (rows_purge_of_listed distinct ids).length_eq
  rw [List.length_append] at rows
  omega

end OverrideTable

end Switchboard
