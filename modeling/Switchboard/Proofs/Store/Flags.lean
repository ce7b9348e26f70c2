import Switchboard.Proofs.Wire.Shown
import Switchboard.Store.Flags

namespace Switchboard

/-!
# Writes of stored flags

What one statement does to the rows: the row of its flag is the written one, and no
other row changes.  A written row decodes to the flag that was written, as a clock shows
it, under the version above the one before.
-/

namespace FlagRow

/-- A row belongs to the flag that it names. -/
theorem isOf_iff {row : FlagRow} {environment key : String} :
    row.isOf environment key = true ↔ row.environment = environment ∧ row.key = key := by
  simp [isOf]

/-- Every row belongs to its own flag. -/
theorem isOf_self (row : FlagRow) : row.isOf row.environment row.key = true :=
  isOf_iff.mpr ⟨rfl, rfl⟩

/-- The flag of a row whose parts are read. -/
theorem decode_eq_ok {row : FlagRow} {rules : List Rule} {createdAt updatedAt : Instant}
    (inRange : row.version < versionBound)
    (rulesRead : Wire.decode? row.rules = some rules)
    (created : Instant.readStrict row.createdAt = some createdAt)
    (updated : Instant.readStrict row.updatedAt = some updatedAt) :
    row.decode = .ok {
      environment := row.environment
      key := row.key
      enabledDefault := row.enabledDefault
      rules
      version := Int64.ofInt row.version
      lastEditorId := row.lastEditorId
      createdAt
      updatedAt } := by
  simp [decode, readVersion, readRules, storedInstant, inRange, rulesRead, created, updated,
    bind, Except.bind, pure, Except.pure]

/-- What a row that decodes to a flag holds. -/
structure Holds (row : FlagRow) (flag : Flag) : Prop where
  environment : flag.environment = row.environment
  key : flag.key = row.key
  enabledDefault : flag.enabledDefault = row.enabledDefault
  rules : Wire.decode? row.rules = some flag.rules
  version : flag.version = Int64.ofInt row.version
  inRange : row.version < versionBound
  lastEditorId : flag.lastEditorId = row.lastEditorId
  createdAt : Instant.readStrict row.createdAt = some flag.createdAt
  updatedAt : Instant.readStrict row.updatedAt = some flag.updatedAt

private theorem storedInstant_eq_ok {column text : String} {instant : Instant} :
    storedInstant column text = .ok instant ↔ Instant.readStrict text = some instant := by
  unfold storedInstant
  cases Instant.readStrict text with
  | none => simp
  | some read => simp

/-- A row decodes to the flag whose parts it holds. -/
theorem decode_eq_ok_iff {row : FlagRow} {flag : Flag} :
    row.decode = .ok flag ↔ row.Holds flag := by
  constructor
  · intro decoded
    unfold decode at decoded
    by_cases inRange : row.version < versionBound
    · cases rules : Wire.decode? (α := List Rule) row.rules with
      | none => simp [readVersion, readRules, inRange, rules, bind, Except.bind] at decoded
      | some rulesRead =>
          cases created : storedInstant "created_at" row.createdAt with
          | error error =>
              simp [readVersion, readRules, inRange, rules, created, bind, Except.bind] at decoded
          | ok createdAt =>
              cases updated : storedInstant "updated_at" row.updatedAt with
              | error error =>
                  simp [readVersion, readRules, inRange, rules, created, updated, bind,
                    Except.bind] at decoded
              | ok updatedAt =>
                  simp only [readVersion, readRules, inRange, rules, created, updated, bind,
                    Except.bind, pure, Except.pure, ↓reduceIte, Except.ok.injEq] at decoded
                  subst decoded
                  exact {
                    environment := rfl
                    key := rfl
                    enabledDefault := rfl
                    rules := rules
                    version := rfl
                    inRange := inRange
                    lastEditorId := rfl
                    createdAt := storedInstant_eq_ok.mp created
                    updatedAt := storedInstant_eq_ok.mp updated }
    · simp [readVersion, inRange, bind, Except.bind] at decoded
  · intro holds
    rw [decode_eq_ok holds.inRange holds.rules holds.createdAt holds.updatedAt,
      ← holds.environment, ← holds.key, ← holds.enabledDefault, ← holds.version,
      ← holds.lastEditorId]

/-- A clock shows the instants of what a row decodes to. -/
theorem Holds.isShown {row : FlagRow} {flag : Flag} (holds : row.Holds flag) :
    Dated.IsShown flag :=
  ⟨ShownWire.isShown_of_decode holds.rules, Instant.isShown_of_readStrict holds.createdAt,
    Instant.isShown_of_readStrict holds.updatedAt⟩

/-- The version of a decoded row is the stored one. -/
theorem Holds.toInt_version {row : FlagRow} {flag : Flag}
    (holds : row.Holds flag)
    (notNegative : 0 ≤ row.version) :
    flag.version.toInt = row.version := by
  have inRange := holds.inRange
  unfold versionBound at inRange
  rw [holds.version]
  exact Int64.toInt_ofInt_of_le (by omega) (by omega)

/-- The first row of a flag decodes to what is shown of what was written, as version one. -/
theorem decode_first {write : FlagWrite} {now : Instant} (plainYear : now.HasPlainYear) :
    (first write now).decode = .ok {
      environment := write.environment
      key := write.key
      enabledDefault := write.enabledDefault
      rules := Dated.shown write.rules
      version := 1
      lastEditorId := write.lastEditorId
      createdAt := now.shown.truncateToMicros
      updatedAt := now.shown.truncateToMicros } := by
  have read := Instant.readStrict_toStored_of_hasPlainYear plainYear
  have inRange : (1 : Int) < versionBound := by decide
  exact decode_eq_ok inRange (FaithfulWire.decode_encode write.rules) read read

/-- A row that was written over decodes to what is shown of the written, as the next version. -/
theorem decode_overwritten {row : FlagRow} {flag : Flag} {write : FlagWrite} {now : Instant}
    (decoded : row.decode = .ok flag)
    (room : row.version + 1 < versionBound)
    (plainYear : now.HasPlainYear) :
    (row.overwritten write now).decode = .ok {
      flag with
      enabledDefault := write.enabledDefault
      rules := Dated.shown write.rules
      version := Int64.ofInt (row.version + 1)
      lastEditorId := write.lastEditorId
      updatedAt := now.shown.truncateToMicros } := by
  have holds := decode_eq_ok_iff.mp decoded
  have next : raised row.version = row.version + 1 := if_pos holds.inRange
  have inRange : (row.overwritten write now).version < versionBound := by
    simpa [overwritten, next] using room
  rw [decode_eq_ok inRange (FaithfulWire.decode_encode write.rules) holds.createdAt
    (Instant.readStrict_toStored_of_hasPlainYear plainYear), holds.environment, holds.key]
  simp [overwritten, next]

end FlagRow

namespace FlagTable

variable {table : FlagTable} {environment key : String}

/-- The row of a flag names it. -/
theorem names_of_row {row : FlagRow} (found : table.row? environment key = some row) :
    row.environment = environment ∧ row.key = key := by
  have isOf : row.isOf environment key = true :=
    List.find?_some (p := fun row : FlagRow => row.isOf environment key) found
  exact FlagRow.isOf_iff.mp isOf

private theorem isOf_replaced (row other : FlagRow) (environment key : String) :
    (if other.isOf row.environment row.key then row else other).isOf environment key =
      other.isOf environment key := by
  split
  · rename_i isHere
    obtain ⟨sameEnvironment, sameKey⟩ := FlagRow.isOf_iff.mp isHere
    simp [FlagRow.isOf, sameEnvironment, sameKey]
  · rfl

private theorem find_replaced (rows : List FlagRow) (row : FlagRow) (environment key : String) :
    (rows.map fun other => if other.isOf row.environment row.key then row else other).find?
        (fun other => other.isOf environment key) =
      (rows.find? fun other => other.isOf environment key).map fun other =>
        if other.isOf row.environment row.key then row else other := by
  rw [List.find?_map]
  congr 2
  funext other
  exact isOf_replaced row other environment key

/-- A row that was put is the row of its flag. -/
theorem row_put_self (table : FlagTable) (row : FlagRow) :
    (table.put row).row? row.environment row.key = some row := by
  unfold put
  split
  · rename_i present
    obtain ⟨old, found⟩ := Option.isSome_iff_exists.mp present
    obtain ⟨sameEnvironment, sameKey⟩ := names_of_row found
    unfold row? at found ⊢
    have isHere : old.isOf row.environment row.key = true :=
      FlagRow.isOf_iff.mpr ⟨sameEnvironment, sameKey⟩
    rw [find_replaced, found, Option.map_some, if_pos isHere]
  · rename_i absent
    have none : table.row? row.environment row.key = none := by simpa using absent
    unfold row? at none ⊢
    simp [List.find?_append, none, row.isOf_self]

/-- Putting a row leaves the rows of other flags. -/
theorem row_put_other {row : FlagRow}
    (other : ¬(row.environment = environment ∧ row.key = key)) :
    (table.put row).row? environment key = table.row? environment key := by
  have notOf : ¬row.isOf environment key = true := fun isOf => other (FlagRow.isOf_iff.mp isOf)
  unfold put
  split
  · cases found : table.row? environment key with
    | none =>
        unfold row? at found ⊢
        rw [find_replaced, found, Option.map_none]
    | some old =>
        obtain ⟨sameEnvironment, sameKey⟩ := names_of_row found
        have notHere : ¬old.isOf row.environment row.key = true := by
          intro isHere
          obtain ⟨environmentHere, keyHere⟩ := FlagRow.isOf_iff.mp isHere
          exact other ⟨environmentHere ▸ sameEnvironment, keyHere ▸ sameKey⟩
        unfold row? at found ⊢
        rw [find_replaced, found, Option.map_some, if_neg notHere]
  · simp [row?, List.find?_append, notOf]

/-- The row that a write leaves behind is the one of its flag. -/
theorem names_of_written (table : FlagTable) (write : FlagWrite) (now : Instant) :
    let row := written (table.row? write.environment write.key) write now
    row.environment = write.environment ∧ row.key = write.key := by
  cases found : table.row? write.environment write.key with
  | none => exact ⟨rfl, rfl⟩
  | some row =>
      have named : row.environment = write.environment ∧ row.key = write.key := names_of_row found
      exact named

/-- A write whose version is not the expected one changes nothing. -/
theorem apply_rejected {write : FlagWrite} {expected : Option Int64} (now : Instant)
    (rejected : ¬applies (table.row? write.environment write.key) expected = true) :
    table.apply write expected now = (none, table) :=
  if_neg rejected

/-- A write whose version is the expected one puts the row that it returns. -/
theorem apply_accepted {write : FlagWrite} {expected : Option Int64} (now : Instant)
    (accepted : applies (table.row? write.environment write.key) expected = true) :
    table.apply write expected now =
      (some (written (table.row? write.environment write.key) write now),
        table.put (written (table.row? write.environment write.key) write now)) :=
  if_pos accepted

/-- After a write that applied, its flag has the row that it returned. -/
theorem row_apply_self {write : FlagWrite} {expected : Option Int64} {now : Instant}
    {row : FlagRow} {later : FlagTable}
    (applied : table.apply write expected now = (some row, later)) :
    later.row? write.environment write.key = some row := by
  by_cases accepted : applies (table.row? write.environment write.key) expected = true
  · rw [apply_accepted now accepted] at applied
    cases applied
    obtain ⟨environment, key⟩ := table.names_of_written write now
    have put := row_put_self table (written (table.row? write.environment write.key) write now)
    rwa [environment, key] at put
  · rw [apply_rejected now accepted] at applied
    cases applied

/-- A write leaves the rows of other flags. -/
theorem row_apply_other {write : FlagWrite} {expected : Option Int64} {now : Instant}
    (other : ¬(write.environment = environment ∧ write.key = key)) :
    (table.apply write expected now).2.row? environment key = table.row? environment key := by
  by_cases accepted : applies (table.row? write.environment write.key) expected = true
  · rw [apply_accepted now accepted]
    obtain ⟨sameEnvironment, sameKey⟩ := table.names_of_written write now
    apply row_put_other
    rwa [sameEnvironment, sameKey]
  · rw [apply_rejected now accepted]

/-- A write leaves what readers see of other flags. -/
theorem read_apply_other {write : FlagWrite} {expected : Option Int64} {now : Instant}
    (other : ¬(write.environment = environment ∧ write.key = key)) :
    (table.apply write expected now).2.read environment key = table.read environment key := by
  unfold read
  rw [row_apply_other other]

/-- Readers see the flag of the row. -/
theorem read_of_row {row : FlagRow} (found : table.row? environment key = some row) :
    table.read environment key = row.decode.map some := by
  unfold read
  rw [found]

/-- Readers see nothing only where there is no row. -/
theorem row_eq_none_of_read (read : table.read environment key = .ok none) :
    table.row? environment key = none := by
  cases found : table.row? environment key with
  | none => rfl
  | some row =>
      rw [read_of_row found] at read
      cases decoded : row.decode with
      | error error => simp [decoded, Except.map] at read
      | ok flag => simp [decoded, Except.map] at read

/-- A flag that readers see is the one of a row. -/
theorem exists_row_of_read {flag : Flag} (read : table.read environment key = .ok (some flag)) :
    ∃ row, table.row? environment key = some row ∧ row.decode = .ok flag := by
  cases found : table.row? environment key with
  | none =>
      simp [FlagTable.read, found] at read
  | some row =>
      rw [read_of_row found] at read
      cases decoded : row.decode with
      | error error => simp [decoded, Except.map] at read
      | ok other =>
          simp only [decoded, Except.map, Except.ok.injEq, Option.some.injEq] at read
          exact ⟨row, rfl, decoded.trans (congrArg _ read)⟩

/-- A clock shows the instants of a flag that readers see. -/
theorem isShown_of_read {flag : Flag} (read : table.read environment key = .ok (some flag)) :
    Dated.IsShown flag := by
  obtain ⟨row, _, decoded⟩ := exists_row_of_read read
  exact (FlagRow.decode_eq_ok_iff.mp decoded).isShown

end FlagTable

end Switchboard
