import Switchboard.Proofs.Interleaving.Fills
import Switchboard.Proofs.Versions.FlagStatements

namespace Switchboard.Interleaving

/-!
# Versions that exchanges show

The store shows the versions of a flag in order: what is read is not older than what was
read or written before, and what is written is newer.
-/

/-- An exchange that read a flag from the store, or wrote it. -/
inductive Shows (environment key : String) : Exchange → Flag → Prop where
  | read (flag : Flag) :
      Shows environment key ⟨.call (.readFlag environment key), .answered (some flag)⟩ flag
  | written (write : FlagWrite) (expected : Option Int64) (flag : Flag) :
      write.environment = environment →
      write.key = key →
      Shows environment key ⟨.call (.applyFlagWrite write expected), .answered (some flag)⟩ flag

/-- An exchange shows more than an earlier version: a newer one if it wrote, that or a newer
one if it read. -/
structure Exceeds (environment key : String) (version : Int) (exchange : Exchange) : Prop where
  written : ∀ write expected flag,
    exchange = ⟨.call (.applyFlagWrite write expected), .answered (some flag)⟩ →
      write.environment = environment → write.key = key → version < flag.version.toInt
  read : ∀ found,
    exchange = ⟨.call (.readFlag environment key), .answered found⟩ →
      ∃ flag, found = some flag ∧ version ≤ flag.version.toInt

/-- The row of a flag, if it has one, has no negative version. -/
def IsCounted (environment key : String) (table : FlagTable) : Prop :=
  ∀ row, table.row? environment key = some row → 0 ≤ row.version

/-- What one exchange does to the row of a flag, and shows of it. -/
structure Advances
    (environment key : String)
    (before : FlagTable)
    (exchange : Exchange)
    (after : FlagTable) : Prop where
  counted : IsCounted environment key after
  grows : ∀ row, before.row? environment key = some row →
    Exceeds environment key row.version exchange ∧
      ∃ later, after.row? environment key = some later ∧ row.version ≤ later.version
  shows : ∀ flag, Shows environment key exchange flag →
    ∃ row, after.row? environment key = some row ∧ flag.version.toInt ≤ row.version

variable {environment key : String} {place : Nat} {world : World}

/-- What is read from the store is the flag of the row. -/
private theorem row_of_read {flag : Flag} {table : FlagTable}
    (counted : IsCounted environment key table)
    (read : table.read environment key = .ok (some flag)) :
    ∃ row, table.row? environment key = some row ∧ flag.version.toInt = row.version := by
  obtain ⟨row, found, decoded⟩ := FlagTable.exists_row_of_read read
  exact ⟨row, found, (FlagRow.decode_eq_ok_iff.mp decoded).toInt_version (counted row found)⟩

private theorem advances_of_keepsFlags {request : Request}
    (counted : IsCounted environment key world.database.flags)
    (noWrite : ∀ write expected, request ≠ .call (.applyFlagWrite write expected)) :
    Advances environment key world.database.flags ⟨request, (world.handle place request).1⟩
      (world.handle place request).2.database.flags := by
  have kept : (world.handle place request).2.database.flags = world.database.flags :=
    World.keepsFlags_handle world place request noWrite
  have read (found : Option Flag)
      (same : (⟨request, (world.handle place request).1⟩ : Exchange) =
        ⟨.call (.readFlag environment key), .answered found⟩) :
      world.database.flags.read environment key = .ok found := by
    simp only [Exchange.mk.injEq] at same
    obtain ⟨rfl, answered⟩ := same
    exact World.read_of_answered (eq_of_heq answered)
  rw [kept]
  refine ⟨counted, fun row found => ⟨⟨?_, ?_⟩, row, found, Int.le_refl _⟩, ?_⟩
  · intro write expected flag same
    exact absurd (congrArg Exchange.request same) (noWrite write expected)
  · intro flag? same
    have isRead := read flag? same
    cases flag? with
    | none =>
        have absent := FlagTable.row_eq_none_of_read isRead
        cases found.symm.trans absent
    | some flag =>
        obtain ⟨other, foundOther, version⟩ := row_of_read counted isRead
        cases found.symm.trans foundOther
        exact ⟨flag, rfl, Int.le_of_eq version.symm⟩
  · intro flag shown
    generalize exchanged :
      (⟨request, (world.handle place request).1⟩ : Exchange) = exchange at shown read
    cases shown with
    | read flag =>
        obtain ⟨row, found, version⟩ := row_of_read counted (read _ rfl)
        exact ⟨row, found, Int.le_of_eq version⟩
    | written write expected flag =>
        exact absurd (congrArg Exchange.request exchanged) (noWrite write expected)

/-- A row that was written over has no lower version, and a higher one if it can be read. -/
private theorem version_overwritten (row : FlagRow) (write : FlagWrite) (now : Instant) :
    row.version ≤ (row.overwritten write now).version ∧
      ((row.overwritten write now).version < FlagRow.versionBound →
        row.version < (row.overwritten write now).version) := by
  simp only [FlagRow.overwritten, FlagRow.raised]
  split
  · omega
  · omega

private theorem zero_le_version_written {table : FlagTable} {write : FlagWrite}
    (counted : IsCounted write.environment write.key table) (now : Instant) :
    0 ≤ (FlagTable.written (table.row? write.environment write.key) write now).version := by
  cases found : table.row? write.environment write.key with
  | none => exact Int.zero_le_ofNat 1
  | some old => exact Int.le_trans (counted old found) (version_overwritten old write now).1

/-- A flag that a write is answered with has the version of the row that was written. -/
private theorem version_of_reply {row : FlagRow} {write other : FlagWrite}
    {expected otherExpected : Option Int64} {flag : Flag}
    (notNegative : 0 ≤ row.version)
    (same : (⟨.call (.applyFlagWrite write expected), .ofExcept (row.decode.map some)⟩ :
      Exchange) = ⟨.call (.applyFlagWrite other otherExpected), .answered (some flag)⟩) :
    row.version < FlagRow.versionBound ∧ flag.version.toInt = row.version := by
  simp only [Exchange.mk.injEq, Request.call.injEq, Call.applyFlagWrite.injEq] at same
  obtain ⟨⟨rfl, rfl⟩, answered⟩ := same
  cases decoded : row.decode with
  | error error =>
      rw [decoded] at answered
      cases eq_of_heq answered
  | ok flag =>
      rw [decoded] at answered
      cases eq_of_heq answered
      have holds := FlagRow.decode_eq_ok_iff.mp decoded
      exact ⟨holds.inRange, holds.toInt_version notNegative⟩

private theorem advances_of_written {before after : FlagTable} {write : FlagWrite}
    {expected : Option Int64} {now : Instant} {row : FlagRow}
    (counted : IsCounted write.environment write.key before)
    (isWritten :
      row = FlagTable.written (before.row? write.environment write.key) write now)
    (stored : after.row? write.environment write.key = some row) :
    Advances write.environment write.key before
      ⟨.call (.applyFlagWrite write expected), .ofExcept (row.decode.map some)⟩ after := by
  have notNegative : 0 ≤ row.version := isWritten ▸ zero_le_version_written counted now
  refine ⟨?_, ?_, ?_⟩
  · intro other found
    cases stored.symm.trans found
    exact notNegative
  · intro old found
    rw [found] at isWritten
    obtain ⟨notLower, higher⟩ :
        old.version ≤ row.version ∧
          (row.version < FlagRow.versionBound → old.version < row.version) :=
      isWritten ▸ version_overwritten old write now
    refine ⟨⟨?_, ?_⟩, row, stored, notLower⟩
    · intro other otherExpected flag same _ _
      obtain ⟨room, version⟩ := version_of_reply notNegative same
      exact version ▸ higher room
    · intro flag? same
      cases congrArg Exchange.request same
  · intro flag isShown
    generalize exchanged :
      (⟨.call (.applyFlagWrite write expected), .ofExcept (row.decode.map some)⟩ : Exchange) =
        exchange at isShown
    cases isShown with
    | read flag => cases congrArg Exchange.request exchanged
    | written other otherExpected flag =>
        obtain ⟨_, version⟩ := version_of_reply notNegative exchanged
        exact ⟨row, stored, Int.le_of_eq version⟩

private theorem advances_of_unwritten {before after : FlagTable} {write : FlagWrite}
    {expected : Option Int64} {reply : Outcome (Option Flag)}
    (counted : IsCounted environment key before)
    (same : after.row? environment key = before.row? environment key)
    (unseen : ∀ flag, reply = .answered (some flag) →
      ¬(write.environment = environment ∧ write.key = key)) :
    Advances environment key before ⟨.call (.applyFlagWrite write expected), reply⟩ after := by
  refine ⟨fun row found => counted row (same ▸ found), ?_, ?_⟩
  · intro row found
    refine ⟨⟨?_, ?_⟩, row, same.trans found, Int.le_refl _⟩
    · intro other otherExpected flag exchanged sameEnvironment sameKey
      simp only [Exchange.mk.injEq, Request.call.injEq, Call.applyFlagWrite.injEq] at exchanged
      obtain ⟨⟨rfl, rfl⟩, answered⟩ := exchanged
      exact absurd ⟨sameEnvironment, sameKey⟩ (unseen flag (eq_of_heq answered))
    · intro flag? exchanged
      cases congrArg Exchange.request exchanged
  · intro flag shown
    generalize exchanged :
      (⟨.call (.applyFlagWrite write expected), reply⟩ : Exchange) = exchange at shown
    cases shown with
    | read flag => cases congrArg Exchange.request exchanged
    | written other otherExpected flag sameEnvironment sameKey =>
        simp only [Exchange.mk.injEq, Request.call.injEq, Call.applyFlagWrite.injEq] at exchanged
        obtain ⟨⟨rfl, rfl⟩, answered⟩ := exchanged
        exact absurd ⟨sameEnvironment, sameKey⟩ (unseen flag (eq_of_heq answered))

/-- What an exchange of an instance does to a flag, and shows of it. -/
theorem advances_handle (place : Nat)
    (counted : IsCounted environment key world.database.flags) (request : Request) :
    Advances environment key world.database.flags ⟨request, (world.handle place request).1⟩
      (world.handle place request).2.database.flags := by
  by_cases isWrite : ∃ write expected, request = .call (.applyFlagWrite write expected)
  · obtain ⟨write, expected, rfl⟩ := isWrite
    by_cases working : (world.instances[place]?.getD World.unreachable).backends.flags = .working
    case neg =>
      have kept := World.keepsFlags_applyFlagWrite world place write expected working
      refine advances_of_unwritten counted (congrArg (FlagTable.row? · environment key) kept) ?_
      exact fun flag answered => absurd (World.working_of_answered answered) working
    unfold World.handle
    rw [World.answer_applyFlagWrite working]
    by_cases here : write.environment = environment ∧ write.key = key
    · obtain ⟨rfl, rfl⟩ := here
      by_cases accepted :
          FlagTable.applies (world.database.flags.row? write.environment write.key) expected =
            true
      · have applied := FlagTable.apply_accepted world.calendar accepted
        have stored := FlagTable.row_apply_self applied
        rw [applied]
        exact advances_of_written counted rfl stored
      · rw [FlagTable.apply_rejected world.calendar accepted]
        exact advances_of_unwritten counted rfl fun flag answered => by cases answered
    · exact advances_of_unwritten counted (FlagTable.row_apply_other here) fun _ _ => here
  · exact advances_of_keepsFlags counted fun write expected same =>
      isWrite ⟨write, expected, same⟩

/-- A log shows the versions of a flag in order, and none that is newer than what is stored. -/
structure Shown (environment key : String) (log : List Entry) (floor : Floor) : Prop where
  named : ∀ number write expected flag,
    ⟨number, ⟨.call (.applyFlagWrite write expected), .answered (some flag)⟩⟩ ∈ log →
      flag.environment = write.environment ∧ flag.key = write.key
  counted : IsCounted environment key floor.world.database.flags
  stored : ∀ entry ∈ log, ∀ flag, Shows environment key entry.exchange flag →
    ∃ row, floor.world.database.flags.row? environment key = some row ∧
      flag.version.toInt ≤ row.version
  ordered : log.Pairwise fun first second => ∀ flag, Shows environment key first.exchange flag →
    Exceeds environment key flag.version.toInt second.exchange

theorem Exceeds.mono {version lower : Int} {exchange : Exchange}
    (exceeds : Exceeds environment key version exchange)
    (notHigher : lower ≤ version) :
    Exceeds environment key lower exchange where
  written write expected flag exchanged sameEnvironment sameKey :=
    Int.lt_of_le_of_lt notHigher
      (exceeds.written write expected flag exchanged sameEnvironment sameKey)
  read found exchanged := by
    obtain ⟨flag, isFound, notOlder⟩ := exceeds.read found exchanged
    exact ⟨flag, isFound, Int.le_trans notHigher notOlder⟩

theorem Shown.happens {log entries : List Entry} {floor later : Floor}
    (shown : Shown environment key log floor)
    (happened : Happens place floor entries later) :
    Shown environment key (log ++ entries) later := by
  cases happened with
  | waited world same =>
      rw [List.append_nil]
      have sameFlags : world.database.flags = floor.world.database.flags :=
        congrArg Database.flags same.database
      refine ⟨shown.named, ?_, ?_, shown.ordered⟩
      · simpa only [sameFlags] using shown.counted
      · simpa only [sameFlags] using shown.stored
  | exchanged number request next left =>
      have advances := advances_handle place shown.counted request
      refine ⟨?_, advances.counted, ?_, ?_⟩
      · intro other write expected flag member
        rcases List.mem_append.mp member with before | now
        · exact shown.named other write expected flag before
        · have exchanged := List.mem_singleton.mp now
          simp only [Entry.mk.injEq, Exchange.mk.injEq] at exchanged
          obtain ⟨_, rfl, answered⟩ := exchanged
          have applied := World.stored_of_applied (Prod.ext (eq_of_heq answered).symm rfl)
          exact ⟨applied.1, applied.2.1⟩
      · intro entry member flag isShown
        rcases List.mem_append.mp member with before | now
        · obtain ⟨row, found, notNewer⟩ := shown.stored entry before flag isShown
          obtain ⟨_, last, foundLast, notLower⟩ := advances.grows row found
          exact ⟨last, foundLast, Int.le_trans notNewer notLower⟩
        · cases List.mem_singleton.mp now
          exact advances.shows flag isShown
      · refine List.pairwise_append.mpr ⟨shown.ordered, List.pairwise_singleton _ _, ?_⟩
        intro entry member last isLast flag isShown
        cases List.mem_singleton.mp isLast
        obtain ⟨row, found, notNewer⟩ := shown.stored entry member flag isShown
        exact (advances.grows row found).1.mono notNewer

end Switchboard.Interleaving
