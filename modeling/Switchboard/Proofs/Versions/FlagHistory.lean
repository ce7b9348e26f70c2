import Switchboard.Proofs.Places
import Switchboard.Proofs.Versions.FlagStatements

namespace Switchboard.World

/-!
# The versions of a flag count its writes

Any number of instances ask anything in any order, and every statement of theirs is one
step.  The writes that applied to one flag left the versions one, two, three and so on,
each expected the version before it or none at all, and what is stored is the last of
them under the date of the first.
-/

/-- A request of an instance, or another instant on the calendar, also an earlier one. -/
inductive Turn where
  | ask (place : Nat) (request : Request)
  | pass (calendar : Instant)

/-- Take a turn: the write that applied, if any, and the world after. -/
def Turn.take (turn : Turn) (world : World) : Option Win × World :=
  match turn with
  | ask place request =>
      let (reply, later) := world.handle place request
      (Win.of? world place request reply, later)
  | pass calendar => (none, { world with calendar })

/-- Take turns: the writes that applied, in the order of their statements, and the world after. -/
def takeTurns : List Turn → World → List Win × World
  | [], world => ([], world)
  | turn :: rest, world =>
      let (win?, later) := turn.take world
      let (wins, last) := takeTurns rest later
      (win?.toList ++ wins, last)

namespace Win

/--
The flag that a write leaves, when the flag was first written at some instant.  Its rules are
kept as a text, so they have the bounds that a clock shows.
-/
def flag (win : Win) (created : Instant) : Flag where
  environment := win.write.environment
  key := win.write.key
  enabledDefault := win.write.enabledDefault
  rules := Dated.shown win.write.rules
  version := Int64.ofInt win.row.version
  lastEditorId := win.write.lastEditorId
  createdAt := created.truncateToMicros
  updatedAt := win.instant.truncateToMicros

/-- The row that a write left says what was written, and was answered as it reads. -/
structure IsFaithful (created : Instant) (win : Win) : Prop where
  environment : win.row.environment = win.write.environment
  key : win.row.key = win.write.key
  enabledDefault : win.row.enabledDefault = win.write.enabledDefault
  rules : win.row.rules = Wire.encode win.write.rules
  lastEditorId : win.row.lastEditorId = win.write.lastEditorId
  createdAt : win.row.createdAt = created.toStored
  updatedAt : win.row.updatedAt = win.instant.toStored
  reply : win.reply = .ofExcept (win.row.decode.map some)

/-- A faithful row reads as the flag that was written. -/
theorem IsFaithful.decode {win : Win} {created : Instant} (faithful : win.IsFaithful created)
    (room : win.row.version < FlagRow.versionBound)
    (storable : win.instant.IsStorable)
    (createdStorable : created.IsStorable) :
    win.row.decode = .ok (win.flag created) := by
  have rules : Wire.decode? win.row.rules = some (Dated.shown win.write.rules) := by
    rw [faithful.rules]
    exact FaithfulWire.decode_encode win.write.rules
  have createdAt : Instant.readStrict win.row.createdAt = some created.truncateToMicros := by
    rw [faithful.createdAt]
    exact Instant.readStrict_toStored createdStorable
  have updatedAt : Instant.readStrict win.row.updatedAt = some win.instant.truncateToMicros := by
    rw [faithful.updatedAt]
    exact Instant.readStrict_toStored storable
  rw [FlagRow.decode_eq_ok room rules createdAt updatedAt, faithful.environment, faithful.key,
    faithful.enabledDefault, faithful.lastEditorId]
  rfl

end Win

/-- The stored version of a flag; an absent flag counts as zero. -/
def storedVersion (world : World) (environment key : String) : Int :=
  ((world.database.flags.row? environment key).map (·.version)).getD 0

/-- The expected version, if there is one, is the stored one. -/
def Expects (expected : Option Int64) (stored : Int) : Prop :=
  ∀ version, expected = some version → version.toInt = stored

/-- The version that a number of writes leaves: their number, while there are versions. -/
def versionAfter (writes : Nat) : Int :=
  min writes FlagRow.versionBound

/-- The next write leaves the next version. -/
theorem raised_versionAfter (writes : Nat) :
    FlagRow.raised (versionAfter writes) = versionAfter (writes + 1) := by
  unfold FlagRow.raised versionAfter FlagRow.versionBound
  split
  · omega
  · omega

/-- The writes that applied to a flag explain what is stored. -/
structure Explains (environment key : String) (wins : List Win) (table : FlagTable) : Prop where
  stored : table.row? environment key = wins.getLast?.map (·.row)
  isOf : ∀ win ∈ wins, win.isOf environment key = true
  versions : ∀ place win, wins[place]? = some win → win.row.version = versionAfter (place + 1)
  expects : ∀ place win, wins[place]? = some win → Expects win.expected (versionAfter place)
  faithful : ∀ first ∈ wins.head?, ∀ win ∈ wins, win.IsFaithful first.instant

namespace Explains

variable {environment key : String} {wins : List Win} {table : FlagTable} {world : World}

/-- Where nothing was ever written, nothing is stored. -/
theorem nil (absent : table.row? environment key = none) :
    Explains environment key [] table where
  stored := absent
  isOf := by simp
  versions := by simp
  expects := by simp
  faithful := by simp

private theorem eq_nil (explains : Explains environment key wins table)
    (absent : table.row? environment key = none) :
    wins = [] :=
  List.getLast?_eq_none_iff.mp (Option.map_eq_none_iff.mp (explains.stored.symm.trans absent))

/-- The version of what is stored is that of the last write. -/
theorem version_of_row (explains : Explains environment key wins table) {row : FlagRow}
    (found : table.row? environment key = some row) :
    0 < wins.length ∧ row.version = versionAfter wins.length := by
  rw [explains.stored] at found
  obtain ⟨win, last, rfl⟩ := Option.map_eq_some_iff.mp found
  have nonempty : wins ≠ [] := by
    rintro rfl
    cases last
  have positive : 0 < wins.length := List.length_pos_iff.mpr nonempty
  rw [List.getLast?_eq_getElem?] at last
  have version := explains.versions _ win last
  rw [Nat.sub_add_cancel positive] at version
  exact ⟨positive, version⟩

/-- The stored version is the number of the writes that applied. -/
theorem storedVersion_eq (explains : Explains environment key wins world.database.flags) :
    world.storedVersion environment key = versionAfter wins.length := by
  unfold storedVersion
  cases found : world.database.flags.row? environment key with
  | none =>
      rw [explains.eq_nil found]
      rfl
  | some row => exact (explains.version_of_row found).2

/-- A statement applies exactly when the stored version is the expected one. -/
theorem applies_iff (explains : Explains environment key wins table) (expected : Option Int64) :
    FlagTable.applies (table.row? environment key) expected = true ↔
      Expects expected (versionAfter wins.length) := by
  cases expected with
  | none => simp [FlagTable.applies, Expects]
  | some version =>
      have expects : Expects (some version) (versionAfter wins.length) ↔
          version.toInt = versionAfter wins.length := by
        simp [Expects]
      rw [expects]
      cases found : table.row? environment key with
      | none =>
          have noWins := explains.eq_nil found
          subst noWins
          have isZero : version = 0 ↔ version.toInt = versionAfter 0 := by
            rw [← Int64.toInt_inj]
            rfl
          simpa [FlagTable.applies] using isZero
      | some row =>
          obtain ⟨positive, rowVersion⟩ := explains.version_of_row found
          have notZero : version.toInt = versionAfter wins.length → version ≠ 0 := by
            intro isStored isZero
            have zero : version.toInt = 0 := by
              rw [isZero]
              rfl
            unfold versionAfter FlagRow.versionBound at isStored
            omega
          simp only [FlagTable.applies, rowVersion, Bool.and_eq_true, bne_iff_ne, ne_eq,
            beq_iff_eq]
          exact ⟨fun both => both.2.symm, fun isStored => ⟨notZero isStored, isStored.symm⟩⟩

private theorem head_append {win first : Win} (isFirst : first ∈ (wins ++ [win]).head?) :
    wins = [] ∧ first = win ∨ first ∈ wins.head? := by
  cases wins with
  | nil => exact .inl ⟨rfl, (Option.some.inj isFirst).symm⟩
  | cons other rest => exact .inr isFirst

/-- The writes explain what one more of them left. -/
private theorem append {win : Win} {later : FlagTable}
    (explains : Explains environment key wins table)
    (stored : later.row? environment key = some win.row)
    (isOf : win.isOf environment key = true)
    (version : win.row.version = versionAfter (wins.length + 1))
    (expects : Expects win.expected (versionAfter wins.length))
    (faithful : ∀ first ∈ (wins ++ [win]).head?, win.IsFaithful first.instant) :
    Explains environment key (wins ++ [win]) later where
  stored := by rw [stored, List.getLast?_concat, Option.map_some]
  isOf other member := by
    rcases List.mem_append.mp member with before | here
    · exact explains.isOf other before
    · rw [List.mem_singleton.mp here]
      exact isOf
  versions place other found := by
    rcases getElem_snoc found with ⟨_, before⟩ | ⟨rfl, rfl⟩
    · exact explains.versions place other before
    · exact version
  expects place other found := by
    rcases getElem_snoc found with ⟨_, before⟩ | ⟨rfl, rfl⟩
    · exact explains.expects place other before
    · exact expects
  faithful first isFirst other member := by
    rcases List.mem_append.mp member with before | here
    · rcases head_append isFirst with ⟨noWins, _⟩ | wasFirst
      · rw [noWins] at before
        cases before
      · exact explains.faithful first wasFirst other before
    · rw [List.mem_singleton.mp here]
      exact faithful first isFirst

private theorem applied {write : FlagWrite} {expected : Option Int64} {instant : Instant}
    (explains : Explains write.environment write.key wins table)
    (accepted :
      FlagTable.applies (table.row? write.environment write.key) expected = true) :
    let row := FlagTable.written (table.row? write.environment write.key) write instant
    Explains write.environment write.key
      (wins ++ [⟨write, expected, instant, row, .ofExcept (row.decode.map some)⟩])
      (table.put row) := by
  intro row
  have expects := (explains.applies_iff expected).mp accepted
  have stored : (table.put row).row? write.environment write.key = some row :=
    FlagTable.row_apply_self (FlagTable.apply_accepted _ accepted)
  have isOf (win : Win) (same : win.write = write) :
      win.isOf write.environment write.key = true := by
    simp [Win.isOf, same]
  cases found : table.row? write.environment write.key with
  | none =>
      have isFirst : row = .first write instant := by
        simp only [row, found, FlagTable.written]
      have noWins := explains.eq_nil found
      subst noWins
      refine explains.append stored (isOf _ rfl) ?_ expects ?_
      · rw [isFirst]
        rfl
      · intro first here
        cases Option.some.inj here
        rw [isFirst]
        exact ⟨rfl, rfl, rfl, rfl, rfl, rfl, rfl, rfl⟩
  | some old =>
      have isOver : row = old.overwritten write instant := by
        simp only [row, found, FlagTable.written]
      obtain ⟨positive, version⟩ := explains.version_of_row found
      obtain ⟨environment, key⟩ := FlagTable.names_of_row found
      refine explains.append stored (isOf _ rfl) ?_ expects ?_
      · rw [isOver, ← raised_versionAfter, ← version]
        rfl
      · intro first isFirst
        have wasFirst : first ∈ wins.head? := by
          rcases head_append isFirst with ⟨noWins, _⟩ | wasFirst
          · rw [noWins] at positive
            cases positive
          · exact wasFirst
        have found' := found
        rw [explains.stored] at found'
        obtain ⟨last, isLast, rfl⟩ := Option.map_eq_some_iff.mp found'
        have created := (explains.faithful first wasFirst last
          (List.mem_of_getLast? isLast)).createdAt
        rw [isOver]
        exact ⟨environment, key, rfl, rfl, rfl, created, rfl, rfl⟩

/-- Statements on other flags change nothing about a flag. -/
theorem of_row {later : FlagTable} (explains : Explains environment key wins table)
    (same : later.row? environment key = table.row? environment key) :
    Explains environment key wins later :=
  { explains with stored := same.trans explains.stored }

/-- One statement more: the win it was, if it was one of the flag, is explained with the others. -/
theorem effect {world later : World} {win? : Option Win}
    (explains : Explains environment key wins world.database.flags)
    (happened : FlagEffect world win? later) :
    Explains environment key (wins ++ (win?.toList.filter (Win.isOf environment key)))
      later.database.flags := by
  cases happened with
  | kept same =>
      rw [same]
      simpa using explains
  | ran write expected reply answered left =>
      by_cases here : write.environment = environment ∧ write.key = key
      · obtain ⟨rfl, rfl⟩ := here
        by_cases accepted :
            FlagTable.applies (world.database.flags.row? write.environment write.key) expected =
              true
        · rw [FlagTable.apply_accepted _ accepted] at answered left ⊢
          rw [left, answered]
          simpa [Win.isOf] using explains.applied accepted
        · rw [FlagTable.apply_rejected _ accepted] at left ⊢
          rw [left]
          simpa using explains
      · have noWin :
            ((world.database.flags.apply write expected world.calendar).1.map fun row =>
              (⟨write, expected, world.calendar, row, reply⟩ : Win)).toList.filter
                (Win.isOf environment key) = [] := by
          refine List.filter_eq_nil_iff.mpr fun win member => ?_
          obtain ⟨row, _, rfl⟩ := Option.map_eq_some_iff.mp (Option.mem_toList.mp member)
          simpa [Win.isOf] using here
        rw [noWin, List.append_nil, left]
        exact explains.of_row (FlagTable.row_apply_other here)

/-- One turn more. -/
theorem take (explains : Explains environment key wins world.database.flags) (turn : Turn) :
    Explains environment key
      (wins ++ (turn.take world).1.toList.filter (Win.isOf environment key))
      (turn.take world).2.database.flags := by
  cases turn with
  | ask place request => exact explains.effect (flagEffect_handle world place request)
  | pass calendar => simpa [Turn.take] using explains

/-- Any turns more. -/
theorem takeTurns (explains : Explains environment key wins world.database.flags)
    (turns : List Turn) :
    Explains environment key
      (wins ++ (takeTurns turns world).1.filter (Win.isOf environment key))
      (takeTurns turns world).2.database.flags := by
  induction turns generalizing wins world with
  | nil => simpa [World.takeTurns] using explains
  | cons turn rest inductionHypothesis =>
      have further := inductionHypothesis (explains.take turn)
      rw [List.append_assoc, ← List.filter_append] at further
      exact further

/-- No two writes that expected the same version both applied. -/
theorem expected_unique (explains : Explains environment key wins table)
    {place other : Nat} {win rival : Win} {version : Int64}
    (found : wins[place]? = some win)
    (otherFound : wins[other]? = some rival)
    (expected : win.expected = some version)
    (otherExpected : rival.expected = some version) :
    place = other := by
  have isStored := explains.expects place win found version expected
  have otherStored := explains.expects other rival otherFound version otherExpected
  have below : version.toInt < FlagRow.versionBound := version.toInt_lt
  unfold versionAfter at isStored otherStored
  unfold FlagRow.versionBound at isStored otherStored below
  omega

end Explains

/-- The writes that applied to a flag are counted by its versions, and the next one will be. -/
structure CountsWrites (environment key : String) (wins : List Win) (last : World) : Prop where
  explained : Explains environment key wins last.database.flags
  counted : last.storedVersion environment key = versionAfter wins.length
  oneWinner :
    ∀ (place other : Nat) (win rival : Win) (version : Int64), wins[place]? = some win →
      wins[other]? = some rival → win.expected = some version → rival.expected = some version →
        place = other
  /-- Instants that can be stored come back, and with them the flag that was written. -/
  answered :
    ∀ first ∈ wins.head?, ∀ win ∈ wins, first.instant.IsStorable → win.instant.IsStorable →
      win.row.version < FlagRow.versionBound →
        win.reply = .answered (some (win.flag first.instant))
  read :
    ∀ first ∈ wins.head?, ∀ win ∈ wins.getLast?, first.instant.IsStorable →
      win.instant.IsStorable → win.row.version < FlagRow.versionBound →
        last.database.flags.read environment key = .ok (some (win.flag first.instant))
  succeeds :
    ∀ place state, last.instances[place]? = some state → state.backends.flags = .working →
      ∀ write expected, write.environment = environment → write.key = key →
        (((Turn.ask place (.call (.applyFlagWrite write expected))).take last).1.isSome = true ↔
          Expects expected (last.storedVersion environment key))
  rejected :
    ∀ place state, last.instances[place]? = some state → state.backends.flags = .working →
      ∀ write expected, write.environment = environment → write.key = key →
        ¬Expects expected (last.storedVersion environment key) →
          last.handle place (.call (.applyFlagWrite write expected)) =
            (.answered none, { last with calendar := last.calendar.next })

/-- Whatever is asked of any number of instances, versions count the writes that applied. -/
theorem versions_count_writes
    {environment key : String}
    {start : World}
    (absent : start.database.flags.row? environment key = none)
    (turns : List Turn) :
    CountsWrites environment key
      ((takeTurns turns start).1.filter (Win.isOf environment key))
      (takeTurns turns start).2 := by
  have explains := (Explains.nil absent).takeTurns turns
  rw [List.nil_append] at explains
  generalize (takeTurns turns start).1.filter (Win.isOf environment key) = wins at explains ⊢
  generalize (takeTurns turns start).2 = last at explains ⊢
  refine {
    explained := explains
    counted := explains.storedVersion_eq
    oneWinner := fun _ _ _ _ _ => explains.expected_unique
    answered := ?_
    read := ?_
    succeeds := ?_
    rejected := ?_ }
  · intro first isFirst win member createdStorable storable room
    have faithful := explains.faithful first isFirst win member
    rw [faithful.reply, faithful.decode room storable createdStorable]
    rfl
  · intro first isFirst win isLast createdStorable storable room
    have faithful := explains.faithful first isFirst win (List.mem_of_getLast? isLast)
    have stored := explains.stored
    rw [isLast] at stored
    rw [FlagTable.read_of_row stored, faithful.decode room storable createdStorable]
    rfl
  · rintro place state present working write expected rfl rfl
    rw [explains.storedVersion_eq, ← explains.applies_iff expected]
    have isWorking : last.instances[place]?.map (·.backends.flags) = some .working := by
      rw [present, Option.map_some, working]
    by_cases accepted :
        FlagTable.applies (last.database.flags.row? write.environment write.key) expected = true
    · simp [Turn.take, Win.of?, isWorking, FlagTable.apply_accepted _ accepted, accepted]
    · simp [Turn.take, Win.of?, isWorking, FlagTable.apply_rejected _ accepted, accepted]
  · rintro place state present working write expected rfl rfl unexpected
    rw [explains.storedVersion_eq] at unexpected
    have rejected :
        ¬FlagTable.applies (last.database.flags.row? write.environment write.key) expected =
          true :=
      fun accepted => unexpected ((explains.applies_iff expected).mp accepted)
    rw [handle_applyFlagWrite present working, FlagTable.apply_rejected _ rejected]
    rfl

namespace Raced

/-- Two instances over one empty database. -/
def start : World :=
  (World.addInstance { calendar := .mayDay } {}).addInstance {}

/-- A write by an editor. -/
def write (editor : String) : FlagWrite where
  environment := "prod"
  key := "beta.search"
  enabledDefault := true
  rules := []
  lastEditorId := some editor

/-- Both instances create the flag, then both raise its first version, then one just writes. -/
def turns : List Turn :=
  [.ask 0 (.call (.applyFlagWrite (write "u1") (some 0))),
    .ask 1 (.call (.applyFlagWrite (write "u2") (some 0))),
    .ask 1 (.call (.applyFlagWrite (write "u2") (some 1))),
    .ask 0 (.call (.applyFlagWrite (write "u1") (some 1))),
    .ask 0 (.call (.applyFlagWrite (write "u1") none))]

end Raced

/-- Of two writes that race for a version one wins. -/
theorem versions_count_writes_raced :
    Raced.start.database.flags.row? "prod" "beta.search" = none ∧
      CountsWrites "prod" "beta.search"
        ((takeTurns Raced.turns Raced.start).1.filter (Win.isOf "prod" "beta.search"))
        (takeTurns Raced.turns Raced.start).2 ∧
      ((takeTurns Raced.turns Raced.start).1.map fun win => (win.row.version, win.expected)) =
        [(1, some 0), (2, some 1), (3, none)] :=
  ⟨rfl, versions_count_writes rfl Raced.turns, by decide⟩

end Switchboard.World
