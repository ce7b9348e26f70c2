import Switchboard.Proofs.Store.Statements

namespace Switchboard

/-!
# The last write of a scope

Callers of the store write overrides, clear them, list the rows that wait to be swept and
sweep some of them, in any order.  What a reader sees of a scope is what the last write of
that scope gave it, as long as that is in force: no other call matters, a sweep does not
either, and the row itself stays until its scope is written again.
-/

/-- A call of the store of overrides, with the instant that it takes for now. -/
inductive OverrideCall where
  | upsert (id : OverrideId) (scope : Scope) (value : Bool) (expiresAt : Option Instant)
      (now : Instant)
  | softDelete (scope : Scope) (now : Instant)
  | listDead (now : Instant) (limit : Nat)
  | purge (now : Instant) (ids : List OverrideId)
  deriving DecidableEq

namespace OverrideCall

/-- Whether a call writes some scope. -/
def isWrite : OverrideCall → Bool
  | upsert .. => true
  | softDelete .. => true
  | listDead .. => false
  | purge .. => false

/-- Whether a call writes a scope. -/
def writes (scope : Scope) : OverrideCall → Bool
  | upsert _ target _ _ _ => decide (target = scope)
  | softDelete target _ => decide (target = scope)
  | listDead .. => false
  | purge .. => false

/-- What a call gave to the scope that it wrote, as long as it is in force. -/
def shownAt (now : Instant) : OverrideCall → Option OverrideValue
  | upsert _ _ value expiresAt _ =>
      let state : OverrideValue := ⟨value, expiresAt.map Instant.truncateToMicros⟩
      if state.isActive now then some state else none
  | _ => none

/-- The expiry that a call writes is storable, and no sweep is ahead of the reader. -/
def IsTimely (now : Instant) : OverrideCall → Prop
  | upsert _ _ _ expiresAt _ => ∀ expiry ∈ expiresAt, expiry.IsStorable
  | purge sweptAt _ => sweptAt.IsStorable ∧ sweptAt ≤ now
  | _ => True

instance (now : Instant) : (call : OverrideCall) → Decidable (call.IsTimely now)
  | upsert _ _ _ expiresAt _ =>
      inferInstanceAs (Decidable (∀ expiry ∈ expiresAt, expiry.IsStorable))
  | softDelete .. => .isTrue trivial
  | listDead .. => .isTrue trivial
  | purge sweptAt _ => inferInstanceAs (Decidable (sweptAt.IsStorable ∧ sweptAt ≤ now))

end OverrideCall

namespace OverrideTable

open OverrideCall

/-- The table after a call. -/
def apply (table : OverrideTable) : OverrideCall → OverrideTable
  | .upsert id scope value expiresAt now => (table.upsert id scope value expiresAt now).2
  | .softDelete scope now => table.softDelete scope now
  | .listDead _ _ => table
  | .purge now ids => (table.purge now ids).2

/-- The table after some calls. -/
def afterCalls (table : OverrideTable) (calls : List OverrideCall) : OverrideTable :=
  calls.foldl apply table

/-- The last of some calls that writes a scope. -/
def lastWrite (scope : Scope) : List OverrideCall → Option OverrideCall
  | [] => none
  | call :: rest => (lastWrite scope rest).or (if call.writes scope then some call else none)

open OverrideRow

variable {table : OverrideTable} {scope : Scope} {row : OverrideRow} {now : Instant}

/-! ## The row of a scope -/

/-- The row of a scope is the one that belongs to it. -/
theorem OnePerScope.row_eq_some_iff (alone : table.OnePerScope) :
    table.row? scope = some row ↔ row ∈ table.rows ∧ row.isOf scope = true := by
  refine ⟨mem_of_row, fun ⟨member, isOf⟩ => ?_⟩
  obtain ⟨rows⟩ := table
  unfold OnePerScope at alone
  show rows.find? (fun row => row.isOf scope) = some row
  induction rows with
  | nil => cases member
  | cons first rest inductionHypothesis =>
      obtain ⟨firstAlone, restAlone⟩ := List.pairwise_cons.mp alone
      rcases List.mem_cons.mp member with rfl | later
      · exact List.find?_cons_of_pos isOf
      · have notFirst : first.isOf scope = false := by
          refine Bool.eq_false_iff.mpr fun isFirst => ?_
          rw [firstAlone row later scope isFirst] at isOf
          cases isOf
        rw [List.find?_cons, notFirst]
        exact inductionHypothesis restAlone ⟨later, isOf⟩ later

/-- A new value leaves the rows of other scopes. -/
theorem mem_upsert_of_other {id : OverrideId} {value : Bool} {expiresAt : Option Instant}
    (member : row ∈ table.rows) (isOther : row.isOf scope = false) :
    row ∈ (table.upsert id scope value expiresAt now).2.rows := by
  unfold OverrideTable.upsert
  cases table.row? scope with
  | none => exact List.mem_append_left _ member
  | some stored => exact List.mem_map.mpr ⟨row, member, by simp [isOther]⟩

/-- Clearing a scope leaves the rows of others. -/
theorem mem_softDelete_of_other (member : row ∈ table.rows) (isOther : row.isOf scope = false) :
    row ∈ (table.softDelete scope now).rows :=
  List.mem_map.mpr ⟨row, member, by simp [isOther]⟩

/-- Calls keep one row for each scope. -/
theorem OnePerScope.apply (alone : table.OnePerScope) (call : OverrideCall) :
    (table.apply call).OnePerScope := by
  cases call with
  | upsert id scope value expiresAt now => exact alone.upsert id scope value expiresAt now
  | softDelete scope now => exact alone.softDelete scope now
  | listDead now limit => exact alone
  | purge now ids => exact alone.purge now ids

/-- A row that does not wait to be swept stays until its scope is written. -/
theorem OnePerScope.row_apply (alone : table.OnePerScope) {call : OverrideCall}
    (found : table.row? scope = some row)
    (visible : row.isVisible now.toStored = true)
    (storable : now.IsStorable)
    (timely : call.IsTimely now)
    (untouched : call.writes scope = false) :
    (table.apply call).row? scope = some row := by
  obtain ⟨member, isOf⟩ := mem_of_row found
  refine (alone.apply call).row_eq_some_iff.mpr ⟨?_, isOf⟩
  cases call with
  | upsert id target value expiresAt writtenAt =>
      have different : scope ≠ target := fun same => of_decide_eq_false untouched same.symm
      exact mem_upsert_of_other member (isOf_eq_false isOf different)
  | softDelete target writtenAt =>
      have different : scope ≠ target := fun same => of_decide_eq_false untouched same.symm
      exact mem_softDelete_of_other member (isOf_eq_false isOf different)
  | listDead listedAt limit => exact member
  | purge sweptAt ids =>
      have texts := Instant.toStored_le_toStored timely.1 storable timely.2
      have alive : row.isDead sweptAt.toStored = false := by
        refine Bool.eq_false_iff.mpr fun dead => ?_
        rw [not_isVisible_of_isDead texts dead] at visible
        cases visible
      show row ∈ (table.purge sweptAt ids).2.rows
      rw [rows_purge]
      exact List.mem_filter.mpr ⟨member, by simp [isTaken, alive]⟩

/-! ## What one call shows -/

/-- Of an expiry what a clock shows of it is read back, in whole microseconds. -/
theorem storedOptionalInstant_map_toStored_of_hasPlainYear {expiresAt : Option Instant}
    (column : String)
    (plainYears : ∀ expiry ∈ expiresAt, expiry.HasPlainYear) :
    storedOptionalInstant column (expiresAt.map Instant.toStored) =
      .ok (expiresAt.map fun expiry => expiry.shown.truncateToMicros) := by
  cases expiresAt with
  | none => rfl
  | some expiry =>
      simp [storedOptionalInstant, storedInstant,
        Instant.readStrict_toStored_of_hasPlainYear (plainYears expiry rfl), Except.map]

/-- Of a storable expiry whole microseconds are read back. -/
theorem storedOptionalInstant_map_toStored {expiresAt : Option Instant} (column : String)
    (storable : ∀ expiry ∈ expiresAt, expiry.IsStorable) :
    storedOptionalInstant column (expiresAt.map Instant.toStored) =
      .ok (expiresAt.map Instant.truncateToMicros) := by
  rw [storedOptionalInstant_map_toStored_of_hasPlainYear column
    fun expiry isExpiry => (storable expiry isExpiry).plainYear]
  refine congrArg Except.ok (Option.map_congr fun expiry isExpiry => ?_)
  rw [Instant.shown_of_isShown (storable expiry isExpiry).isShown]

/-- A written row is expired when what it shows is not in force any more. -/
theorem isExpired_of_written {expiresAt : Option Instant} (value : Bool)
    (expires : row.expiresAt = expiresAt.map Instant.toStored)
    (expiryStorable : ∀ expiry ∈ expiresAt, expiry.IsStorable)
    (storable : now.IsStorable) :
    row.isExpired now.toStored =
      !OverrideValue.isActive ⟨value, expiresAt.map Instant.truncateToMicros⟩ now := by
  have plainYears : ∀ expiry ∈ expiresAt, expiry.HasPlainYear := fun expiry isExpiry =>
    (expiryStorable expiry isExpiry).plainYear
  obtain ⟨⟨_, shownExpiry⟩, read, -, expired⟩ :=
    (hasStoredExpiry_of_map plainYears expires).read
  rw [expires, storedOptionalInstant_map_toStored "expires_at" expiryStorable] at read
  have same : expiresAt.map Instant.truncateToMicros = shownExpiry := Except.ok.inj read
  subst same
  exact expired now storable

/-- A new value is seen until its expiry, of which the store keeps whole microseconds. -/
theorem OnePerScope.find_upsert_self (alone : table.OnePerScope) {expiresAt : Option Instant}
    (expiryStorable : ∀ expiry ∈ expiresAt, expiry.IsStorable)
    (storable : now.IsStorable)
    (id : OverrideId) (scope : Scope) (value : Bool) (writtenAt : Instant) :
    (table.upsert id scope value expiresAt writtenAt).2.find scope now =
      .ok (shownAt now (.upsert id scope value expiresAt writtenAt)) := by
  have later := alone.upsert id scope value expiresAt writtenAt
  obtain ⟨isOf, isValue, expires, kept, -⟩ :=
    table.upsert_columns id scope value expiresAt writtenAt
  have found := later.row_eq_some_iff.mpr
    ⟨table.row_mem_upsert id scope value expiresAt writtenAt, isOf⟩
  have expired := isExpired_of_written value expires expiryStorable storable
  rw [later.find_eq, found, Option.filter_some, isVisible, kept, expired]
  cases active : OverrideValue.isActive ⟨value, expiresAt.map Instant.truncateToMicros⟩ now with
  | false => simp [shownAt, active]
  | true =>
      simp [shownAt, active, expires, isValue, bind, Except.bind, pure, Except.pure,
        storedOptionalInstant_map_toStored "expires_at" expiryStorable]

/-- Nothing is seen of a scope that was cleared. -/
theorem find_softDelete_self (table : OverrideTable) (scope : Scope) (writtenAt now : Instant) :
    (table.softDelete scope writtenAt).find scope now = .ok none := by
  have hidden : (table.softDelete scope writtenAt).rows.find?
      (fun row => row.isOf scope && row.isVisible now.toStored) = none := by
    refine List.find?_eq_none.mpr fun row member => ?_
    obtain ⟨origin, _, rfl⟩ := List.mem_map.mp member
    cases isOf : origin.isOf scope with
    | false => simp [isOf]
    | true =>
        cases deleted : origin.deletedAt with
        | none => simp [isVisible, cleared]
        | some text => simp [deleted, isVisible]
  unfold find
  rw [hidden]

/-- A call shows a scope what it wrote there, and leaves what others show. -/
theorem OnePerScope.find_apply (alone : table.OnePerScope) {call : OverrideCall}
    (storable : now.IsStorable)
    (timely : call.IsTimely now)
    (scope : Scope) :
    (table.apply call).find scope now =
      if call.writes scope then .ok (call.shownAt now) else table.find scope now := by
  cases call with
  | upsert id target value expiresAt writtenAt =>
      by_cases here : target = scope
      · subst here
        rw [writes, decide_eq_true rfl, if_pos rfl]
        exact alone.find_upsert_self timely storable id target value writtenAt
      · rw [writes, decide_eq_false here, if_neg Bool.false_ne_true]
        exact find_upsert_other id value expiresAt writtenAt now fun same => here same.symm
  | softDelete target writtenAt =>
      by_cases here : target = scope
      · subst here
        rw [writes, decide_eq_true rfl, if_pos rfl]
        exact table.find_softDelete_self target writtenAt now
      · rw [writes, decide_eq_false here, if_neg Bool.false_ne_true]
        exact find_softDelete_other writtenAt now fun same => here same.symm
  | listDead listedAt limit => rfl
  | purge sweptAt ids => exact find_purge ids timely.1 storable timely.2

/-! ## What some calls show -/

/-- Calls show a scope what the last of them wrote there, or what it showed before them. -/
theorem OnePerScope.find_afterCalls (alone : table.OnePerScope) {calls : List OverrideCall}
    (storable : now.IsStorable)
    (timely : ∀ call ∈ calls, call.IsTimely now)
    (scope : Scope) :
    (table.afterCalls calls).find scope now =
      match lastWrite scope calls with
      | some call => .ok (call.shownAt now)
      | none => table.find scope now := by
  induction calls generalizing table with
  | nil => rfl
  | cons call rest inductionHypothesis =>
      obtain ⟨callTimely, restTimely⟩ := List.forall_mem_cons.mp timely
      refine (inductionHypothesis (alone.apply call) restTimely).trans ?_
      rw [lastWrite, alone.find_apply storable callTimely scope]
      cases lastWrite scope rest with
      | some last => rfl
      | none => cases call.writes scope <;> rfl

/-- The row that a scope shows stays while others are written and sweeps go on. -/
theorem OnePerScope.row_afterCalls (alone : table.OnePerScope) {calls : List OverrideCall}
    (found : table.row? scope = some row)
    (visible : row.isVisible now.toStored = true)
    (storable : now.IsStorable)
    (timely : ∀ call ∈ calls, call.IsTimely now ∧ call.writes scope = false) :
    (table.afterCalls calls).row? scope = some row := by
  induction calls generalizing table with
  | nil => exact found
  | cons call rest inductionHypothesis =>
      obtain ⟨⟨callTimely, untouched⟩, restTimely⟩ := List.forall_mem_cons.mp timely
      exact inductionHypothesis (alone.apply call)
        (alone.row_apply found visible storable callTimely untouched) restTimely

/-- Calls keep one row for each scope. -/
theorem OnePerScope.afterCalls (alone : table.OnePerScope) (calls : List OverrideCall) :
    (table.afterCalls calls).OnePerScope := by
  induction calls generalizing table with
  | nil => exact alone
  | cons call rest inductionHypothesis => exact inductionHypothesis (alone.apply call)

/-- Calls that write nothing do not matter for the last write. -/
theorem lastWrite_filter_isWrite (scope : Scope) (calls : List OverrideCall) :
    lastWrite scope (calls.filter isWrite) = lastWrite scope calls := by
  induction calls with
  | nil => rfl
  | cons call rest inductionHypothesis =>
      cases isWrite : call.isWrite with
      | true => rw [List.filter_cons_of_pos isWrite, lastWrite, lastWrite, inductionHypothesis]
      | false =>
          have untouched : call.writes scope = false := by
            cases call with
            | upsert id target value expiresAt now => cases isWrite
            | softDelete target now => cases isWrite
            | listDead now limit => rfl
            | purge now ids => rfl
          rw [List.filter_cons_of_neg (by simp [isWrite]), inductionHypothesis, lastWrite,
            untouched]
          exact Option.or_none.symm

/-- What is seen of a scope is in its row. -/
theorem OnePerScope.row_of_find (alone : table.OnePerScope) {shown : OverrideValue}
    (seen : table.find scope now = .ok (some shown)) :
    ∃ row, table.row? scope = some row ∧ row.isVisible now.toStored = true := by
  rw [alone.find_eq] at seen
  cases found : (table.row? scope).filter fun row => row.isVisible now.toStored with
  | none =>
      rw [found] at seen
      cases seen
  | some row =>
      obtain ⟨isRow, visible⟩ := Option.filter_eq_some_iff.mp found
      exact ⟨row, isRow, visible⟩

namespace Revival

/-- The scope of the override. -/
def target : Scope :=
  .user "prod" "beta.search" "u1"

/-- An override that expires at the start of July, is listed, gets a new value, and is swept. -/
def calls : List OverrideCall :=
  [.upsert (.ofNat 1) target true (some (.startOf ⟨2024, 7, 1, by decide⟩)) .mayDay,
    .listDead (.startOf ⟨2024, 7, 2, by decide⟩) 10,
    .upsert (.ofNat 2) target false none (.startOf ⟨2024, 7, 3, by decide⟩),
    .purge (.startOf ⟨2024, 7, 4, by decide⟩) [.ofNat 1]]

/-- The instant of the reader, the day after the sweep. -/
def reader : Instant :=
  .startOf ⟨2024, 7, 5, by decide⟩

end Revival

end OverrideTable

end Switchboard
