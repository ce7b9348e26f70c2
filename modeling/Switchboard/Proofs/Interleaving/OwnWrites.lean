import Switchboard.Proofs.CacheKeys
import Switchboard.Proofs.Interleaving.ShownVersions

namespace Switchboard.Interleaving

/-!
# Reading what was written

A read that begins when a write has returned sees that write, unless another read came
between: one that had read the store before the write, and filled the cache with it after
the write had dropped the entry.
-/

/-- Whether an exchange is a call that was answered, or no call. -/
def isAnswered : Exchange → Bool
  | ⟨.call _, .failed _⟩ => false
  | ⟨.call _, .timedOut⟩ => false
  | _ => true

/-- All calls of an errand were answered. -/
def AllAnswered (log : List Entry) (number : Nat) : Prop :=
  ∀ entry ∈ log, entry.number = number → isAnswered entry.exchange = true

/--
A write was overtaken on its way to a read: `filler` read the flag before the write was
applied, filled the cache with it after the write had dropped the entry, and the read
found just that.
-/
def IsOvertaken
    (log : List Entry)
    (writer reader : Nat)
    (write : FlagWrite)
    (expected : Option Int64)
    (written : Flag) : Prop :=
  let cacheKey := flagCacheKey write.environment write.key
  ∃ (filler : Nat) (old : Flag) (lifetime : Nat) (reply : Outcome Unit)
    (read stored dropped filled looked : Nat),
    log[read]? =
        some ⟨filler, ⟨.call (.readFlag write.environment write.key), .answered (some old)⟩⟩ ∧
      log[stored]? =
        some ⟨writer, ⟨.call (.applyFlagWrite write expected), .answered (some written)⟩⟩ ∧
      log[dropped]? = some ⟨writer, ⟨.call (.cacheDelete cacheKey), .answered ()⟩⟩ ∧
      log[filled]? =
        some ⟨filler, ⟨.call (.cacheSet cacheKey (Wire.encode old) lifetime), reply⟩⟩ ∧
      log[looked]? =
        some ⟨reader, ⟨.call (.cacheGet cacheKey), .answered (some (Wire.encode old))⟩⟩ ∧
      read < stored ∧ dropped < filled ∧ filled < looked

/-- What holds of the log and the floor after any turns. -/
private structure Holds
    (place : Nat)
    (errands : Nat → Errand)
    (environment key : String)
    (log : List Entry)
    (floor : Floor) : Prop where
  conducted : Conducted errands log floor
  filled : Filled place log floor
  shown : Shown environment key log floor

variable {place : Nat} {layer : Layer} {errands : Nat → Errand} {environment key : String}

private theorem holds_takeTurns {log : List Entry} {floor : Floor}
    (holds : Holds place errands environment key log floor)
    (turns : List Turn) :
    Holds place errands environment key (log ++ (takeTurns place turns floor).1)
      (takeTurns place turns floor).2 :=
  takeTurns_induction
    (fun _ _ _ _ holds happened => {
      conducted := holds.conducted.happens happened
      filled := holds.filled.happens happened
      shown := holds.shown.happens happened })
    turns holds

private theorem holds_opening {world : World}
    (up : IsUp place world)
    (empty : ∀ cacheKey, world.held place cacheKey = none)
    (counted : IsCounted environment key world.database.flags) :
    Holds place errands environment key [] (.opening layer errands world) where
  conducted := conducted_opening layer errands world
  filled := filled_opening layer errands up empty
  shown := ⟨by simp, counted, by simp, .nil⟩

/-- Of two places of a log the later one shows more than the earlier one. -/
private theorem Shown.exceeds {log : List Entry} {floor : Floor} {first second : Nat}
    {entry later : Entry} {flag : Flag}
    (shown : Shown environment key log floor)
    (found : log[first]? = some entry)
    (foundLater : log[second]? = some later)
    (before : first < second)
    (shows : Shows environment key entry.exchange flag) :
    Exceeds environment key flag.version.toInt later.exchange := by
  obtain ⟨inRange, rfl⟩ := List.getElem?_eq_some_iff.mp found
  obtain ⟨laterInRange, rfl⟩ := List.getElem?_eq_some_iff.mp foundLater
  exact List.pairwise_iff_getElem.mp shown.ordered first second inRange laterInRange before flag
    shows

section

variable {write : FlagWrite} {expected : Option Int64} {written : Flag} {writer reader : Nat}
  {log : List Entry} {floor : Floor}

/-- An entry that a lookup found is not older than a write before, unless it overtook it. -/
private theorem overtaken_or_newer {stored dropped looked : Nat} {text : String} {flag : Flag}
    (holds : Holds place errands write.environment write.key log floor)
    (valid : ValidNames write.environment write.key)
    (storedAt :
      log[stored]? =
        some ⟨writer, ⟨.call (.applyFlagWrite write expected), .answered (some written)⟩⟩)
    (droppedAt :
      log[dropped]? =
        some ⟨writer, ⟨.call (.cacheDelete (flagCacheKey write.environment write.key)),
          .answered ()⟩⟩)
    (before : dropped < looked)
    (lookedAt :
      log[looked]? =
        some ⟨reader, ⟨.call (.cacheGet (flagCacheKey write.environment write.key)),
          .answered (some text)⟩⟩)
    (readable : Wire.decode? text = some flag) :
    IsOvertaken log writer reader write expected written ∨
      written.version.toInt ≤ flag.version.toInt := by
  obtain ⟨filled, filler, lifetime, reply, filledBefore, filledAt, untouched⟩ :=
    holds.filled.found looked reader _ text lookedAt
  obtain ⟨environment, key, old, sameCacheKey, rfl, member⟩ :=
    holds.conducted.fills filler _ text lifetime reply (List.mem_of_getElem? filledAt)
  obtain ⟨rfl, rfl⟩ := (flagCacheKey_inj valid).mp sameCacheKey.symm
  have same : Dated.shown old = flag := by
    rw [FaithfulWire.decode_encode] at readable
    exact Option.some.inj readable
  subst same
  obtain ⟨read, readAt⟩ := List.mem_iff_getElem?.mp member
  have droppedFirst : dropped < filled := by
    rcases Nat.lt_trichotomy dropped filled with first | together | last
    · exact first
    · rw [together, filledAt] at droppedAt
      cases congrArg (Option.map fun entry => entry.exchange.request) droppedAt
    · exact absurd (.inl rfl) (untouched dropped _ last before droppedAt)
  rcases Nat.lt_trichotomy read stored with first | together | last
  · exact .inl ⟨filler, old, lifetime, reply, read, stored, dropped, filled, looked, readAt,
      storedAt, droppedAt, filledAt, lookedAt, first, droppedFirst, filledBefore⟩
  · rw [together, storedAt] at readAt
    cases congrArg (Option.map fun entry => entry.exchange.request) readAt
  · have exceeds := holds.shown.exceeds storedAt readAt last (.written write expected _ rfl rfl)
    obtain ⟨later, isLater, notOlder⟩ := exceeds.read _ rfl
    cases isLater
    exact .inr notOlder

/-- A read that found what overtook a write answers with an older flag. -/
private theorem older_of_overtaken {answer : Except ServiceError (Option Flag)}
    (holds : Holds place errands write.environment write.key log floor)
    (reads : ReadsFlag write.environment write.key (past log reader) answer)
    (overtaken : IsOvertaken log writer reader write expected written) :
    ∃ flag, answer = .ok (some flag) ∧ flag.version.toInt < written.version.toInt := by
  obtain ⟨filler, old, lifetime, reply, read, stored, dropped, filled, looked, readAt, storedAt,
    _, _, lookedAt, before, _⟩ := overtaken
  have exceeds := holds.shown.exceeds readAt storedAt before (.read old)
  refine ⟨Dated.shown old, ?_, exceeds.written write expected written rfl rfl rfl⟩
  exact reads.hit _ _ (mem_past.mpr (List.mem_of_getElem? lookedAt))
    (FaithfulWire.decode_encode old)

end

/-- A write that returned was applied and dropped the entry of its flag. -/
private theorem applied_and_dropped
    {write : FlagWrite} {expected : Option Int64} {written : Flag} {writer : Nat}
    {log : List Entry} {floor : Floor}
    (holds : Holds place errands environment key log floor)
    (writes : errands writer = .writeFlag write expected)
    (returned : floor.programs writer = .done (.ok (some written))) :
    ⟨writer, ⟨.call (.applyFlagWrite write expected), .answered (some written)⟩⟩ ∈ log ∧
      ⟨writer, ⟨.call (.cacheDelete (flagCacheKey write.environment write.key)),
        .answered ()⟩⟩ ∈ log := by
  have ends := holds.conducted.keeps writer
  rw [returned, writes] at ends
  obtain ⟨flag, isWritten, applied, dropped⟩ := ends (some written) rfl
  cases isWritten
  obtain ⟨sameEnvironment, sameKey⟩ :=
    holds.shown.named writer write expected written (mem_past.mp applied)
  rw [sameEnvironment, sameKey] at dropped
  exact ⟨mem_past.mp applied, mem_past.mp dropped⟩

private theorem place_of_later {earlier later : List Entry} {number : Nat} {exchange : Exchange}
    (notBegun : ∀ entry ∈ earlier, entry.number ≠ number)
    (member : exchange ∈ past (earlier ++ later) number) :
    ⟨number, exchange⟩ ∈ later ∧
      ∃ index, earlier.length ≤ index ∧
        (earlier ++ later)[index]? = some ⟨number, exchange⟩ := by
  rcases List.mem_append.mp (mem_past.mp member) with before | behind
  · exact absurd rfl (notBegun _ before)
  · exact ⟨behind, getElem_of_later earlier behind⟩

/--
Once a write has returned with a version, a read that begins afterwards returns that
version or a later one exactly when the write was not overtaken, whatever other reads and
writes go on, wherever the cache and the store work.
-/
theorem reads_own_writes_iff
    {start : World}
    (up : IsUp place start)
    (empty : ∀ cacheKey, start.held place cacheKey = none)
    {write : FlagWrite}
    {expected : Option Int64}
    (valid : ValidNames write.environment write.key)
    (counted : IsCounted write.environment write.key start.database.flags)
    {writer reader : Nat}
    (writes : errands writer = .writeFlag write expected)
    (reads : errands reader = .getFlag write.environment write.key)
    {before after : List Turn}
    {earlier later : List Entry}
    {middle last : Floor}
    (ranBefore : takeTurns place before (.opening layer errands start) = (earlier, middle))
    (ranAfter : takeTurns place after middle = (later, last))
    {written : Flag}
    {answer : Except ServiceError (Option Flag)}
    (returned : middle.programs writer = .done (.ok (some written)))
    (notBegun : ∀ entry ∈ earlier, entry.number ≠ reader)
    (ended : last.programs reader = .done answer)
    (answered : AllAnswered later reader) :
    (∃ flag, answer = .ok (some flag) ∧ written.version ≤ flag.version) ↔
      ¬IsOvertaken (earlier ++ later) writer reader write expected written := by
  have opening : Holds place errands write.environment write.key []
      (.opening layer errands start) :=
    holds_opening up empty counted
  have atMiddle := holds_takeTurns opening before
  rw [List.nil_append, ranBefore] at atMiddle
  have atLast := holds_takeTurns atMiddle after
  rw [ranAfter] at atLast
  have readEnds : ReadsFlag write.environment write.key (past (earlier ++ later) reader)
      answer := by
    have ends := atLast.conducted.keeps reader
    rw [ended, reads] at ends
    exact ends
  constructor
  · rintro ⟨flag, isAnswer, notOlder⟩ overtaken
    obtain ⟨old, isOld, older⟩ := older_of_overtaken atLast readEnds overtaken
    cases isAnswer.symm.trans isOld
    have notNewer := Int64.le_iff_toInt_le.mp notOlder
    omega
  · intro notOvertaken
    obtain ⟨applied, dropped⟩ := applied_and_dropped atMiddle writes returned
    obtain ⟨stored, storedBefore, storedAt⟩ := getElem_of_earlier later applied
    obtain ⟨droppedIndex, droppedBefore, droppedAt⟩ := getElem_of_earlier later dropped
    by_cases hit : ∃ text flag,
        ⟨.call (.cacheGet (flagCacheKey write.environment write.key)), .answered (some text)⟩ ∈
            past (earlier ++ later) reader ∧
          Wire.decode? (α := Flag) text = some flag
    · obtain ⟨text, flag, looked, readable⟩ := hit
      obtain ⟨_, lookedIndex, behind, lookedAt⟩ := place_of_later notBegun looked
      refine ⟨flag, readEnds.hit text flag looked readable, Int64.le_iff_toInt_le.mpr ?_⟩
      rcases overtaken_or_newer atLast valid storedAt droppedAt
        (Nat.lt_of_lt_of_le droppedBefore behind) lookedAt readable with overtaken | notOlder
      · exact absurd overtaken notOvertaken
      · exact notOlder
    · obtain ⟨reply, asked, answers⟩ := readEnds.miss fun text flag looked readable =>
        hit ⟨text, flag, looked, readable⟩
      obtain ⟨askedLater, askedIndex, behind, askedAt⟩ := place_of_later notBegun asked
      have isCallAnswered := answered _ askedLater rfl
      cases reply with
      | failed error => cases isCallAnswered
      | timedOut => cases isCallAnswered
      | answered found =>
      have exceeds := atLast.shown.exceeds storedAt askedAt
        (Nat.lt_of_lt_of_le storedBefore behind) (.written write expected written rfl rfl)
      obtain ⟨flag, rfl, notOlder⟩ := exceeds.read found rfl
      exact ⟨flag, answers _ rfl, Int64.le_iff_toInt_le.mpr notOlder⟩

namespace Overtaken

/-- A write that turns the flag on or off. -/
def write (enabledDefault : Bool) : FlagWrite where
  environment := "prod"
  key := "beta.search"
  enabledDefault := enabledDefault
  rules := []
  lastEditorId := some "u1"

/-- A new instance over a flag that was written once, before a read fills its cache too late. -/
def start : World :=
  World.addInstance
    { calendar := Instant.mayDay.next
      database := { flags := ⟨[.first (write false) .mayDay]⟩ } } {}

/-- A write and any number of reads. -/
def asked : Nat → Errand
  | 0 => .writeFlag (write true) (some 1)
  | _ => .getFlag "prod" "beta.search"

/-- A read as far as the store, and the write. -/
def before : List Turn :=
  List.replicate 3 (.resume 1) ++ List.replicate 5 (.resume 0)

/-- The read fills the cache, and another one begins. -/
def after : List Turn :=
  [.resume 1, .resume 2, .resume 2]

/-- What is exchanged until the write has ended, and where everybody is then. -/
def earlier : List Entry × Floor :=
  takeTurns 0 before (.opening {} asked start)

/-- What is exchanged from then on, and where everybody is in the end. -/
def later : List Entry × Floor :=
  takeTurns 0 after earlier.2

/-- The version of the flag that an errand ended with. -/
def version? : Program (Except ServiceError (Option Flag)) → Option Int64
  | .done (.ok (some flag)) => some flag.version
  | _ => none

private theorem done_of_version {program : Program (Except ServiceError (Option Flag))}
    {version : Int64} (ends : version? program = some version) :
    ∃ flag, program = .done (.ok (some flag)) ∧ flag.version = version := by
  unfold version? at ends
  split at ends
  · exact ⟨_, rfl, Option.some.inj ends⟩
  · cases ends

end Overtaken

/-- A write that was overtaken is not seen. -/
theorem reads_own_writes_iff_overtaken :
    IsUp 0 Overtaken.start ∧
      ∃ written stale,
        Overtaken.earlier.2.programs 0 = .done (.ok (some written)) ∧
          Overtaken.later.2.programs 2 = .done (.ok (some stale)) ∧
            stale.version < written.version ∧
              IsOvertaken (Overtaken.earlier.1 ++ Overtaken.later.1) 0 2 (Overtaken.write true)
                (some 1) written := by
  have up : IsUp 0 Overtaken.start := ⟨_, rfl, rfl, rfl⟩
  have valid : ValidNames (Overtaken.write true).environment (Overtaken.write true).key := by
    decide
  have counted : IsCounted (Overtaken.write true).environment (Overtaken.write true).key
      Overtaken.start.database.flags := by
    rintro row ⟨⟩
    exact Int.zero_le_ofNat 1
  have writes : Overtaken.asked 0 = .writeFlag (Overtaken.write true) (some 1) := rfl
  have reads : Overtaken.asked 2 =
      .getFlag (Overtaken.write true).environment (Overtaken.write true).key :=
    rfl
  have ranBefore :
      takeTurns 0 Overtaken.before (.opening {} Overtaken.asked Overtaken.start) =
        (Overtaken.earlier.1, Overtaken.earlier.2) :=
    (Prod.eta Overtaken.earlier).symm
  have ranAfter :
      takeTurns 0 Overtaken.after Overtaken.earlier.2 =
        (Overtaken.later.1, Overtaken.later.2) :=
    (Prod.eta Overtaken.later).symm
  have notBegun : ∀ entry ∈ Overtaken.earlier.1, entry.number ≠ 2 := by decide +kernel
  have answered : AllAnswered Overtaken.later.1 2 := by
    unfold AllAnswered
    decide +kernel
  have second : Overtaken.version? (Overtaken.earlier.2.programs 0) = some 2 := by
    decide +kernel
  have first : Overtaken.version? (Overtaken.later.2.programs 2) = some 1 := by decide +kernel
  obtain ⟨written, returned, isSecond⟩ := Overtaken.done_of_version second
  obtain ⟨stale, ended, isFirst⟩ := Overtaken.done_of_version first
  have older : stale.version < written.version := by
    rw [isFirst, isSecond]
    decide
  have sees := reads_own_writes_iff up (fun _ => rfl) valid counted writes reads ranBefore ranAfter
    returned notBegun ended answered
  refine ⟨up, written, stale, returned, ended, older, ?_⟩
  refine Classical.not_not.mp fun notOvertaken => ?_
  obtain ⟨flag, isAnswer, notOlder⟩ := sees.mpr notOvertaken
  cases isAnswer
  exact absurd older (Int64.not_lt.mpr notOlder)

end Switchboard.Interleaving
