import Switchboard.Proofs.Versions.Handed

namespace Switchboard.Guarding

open Interleaving (Entry Shows past mem_past)

/-!
# Version conflicts tell something

A write that expects a version which is no longer stored is refused first, and the stored
version is read for its report afterwards, when others may have written again.  Whoever expects
a version that was handed out is told a newer one, whatever the others do.
-/

/-! ## What is returned -/

/-- A job that reads a flag, or writes it, returned it at a version. -/
inductive Task.Returns (environment key : String) (version : Int64) :
    (task : Task) → Program (Except ServiceError task.Answer) → Prop where
  | read (flag : Flag) :
      flag.version = version →
      Returns environment key version (.getFlag environment key) (.done (.ok (some flag)))
  | written (write : FlagWrite) (expected : Option Int64) (flag : Flag) :
      write.environment = environment →
      write.key = key →
      flag.version = version →
      Returns environment key version (.writeFlag write expected) (.done (.ok flag))

section Terms

variable {service : Service} {exchanges : List Exchange} {environment key : String}
variable {write : FlagWrite} {expected : Option Int64}

private theorem abides_getFlag_recalling :
    (service.getFlag environment key).Abides (recallingTerms exchanges) fun outcome =>
      ∀ flag, outcome = .ok (some flag) →
        ∃ exchange ∈ exchanges, Hands environment key exchange flag := by
  refine Operation.abides_bind (Operation.abides_require (fun _ => ?_)
    fun _ _ _ failed => by cases failed)
  refine Operation.abides_bind (Operation.abides_require (fun _ => ?_)
    fun _ _ _ failed => by cases failed)
  have lets := (letsServe_recalling exchanges service).spares
  refine Layer.abides_getFlag lets.inquires (fun text flag given decoded => ?_)
    (fun outcome given => ?_) (lets.fills.flags environment key)
  · intro other same
    cases same
    exact ⟨_, given, .looked text flag decoded⟩
  · intro flag returned
    cases outcome with
    | answered found =>
        cases returned
        exact ⟨_, given, .shown (.read flag)⟩
    | failed error => cases returned
    | timedOut => cases returned

/-- What a refused write ends with, by what is said of the stored version. -/
def Reports (write : FlagWrite) (expected : Int64) (reply : Outcome (Option Int64))
    (outcome : Except ServiceError α) : Prop :=
  outcome = match reply with
    | .answered actual =>
        .error (.versionConflict write.environment write.key expected actual)
    | .failed error => .error error
    | .timedOut => .error (.timeout "flag write")

private theorem abides_rejectWrite {terms : Terms} (lets : terms.LetsFollowUp)
    (write : FlagWrite) (expected : Option Int64) :
    (Layer.rejectWrite write expected).Abides terms fun outcome =>
      ∃ reply, terms.gives (.call (.readFlagVersion write.environment write.key)) reply ∧
        Reports write (expected.getD 0) reply outcome := by
  refine Operation.abides_bind (Operation.abides_call (lets _ trivial) (lets _ trivial)
    fun reply given => ?_)
  cases reply with
  | answered actual =>
      exact Operation.abides_bind (Operation.abides_ask (lets _ trivial)
        fun _ _ => ⟨_, given, rfl⟩)
  | failed error => exact ⟨_, given, rfl⟩
  | timedOut => exact ⟨_, given, rfl⟩

/-- The news of a write go out under any terms that let them. -/
private theorem abides_tell {terms : Terms} {layer : Layer} {cacheKey : String}
    {event : Instant → Invalidation} {value : α} {ends : Except ServiceError α → Prop}
    (lets : LetsSpare terms service fun _ => True)
    (failed : ∀ error, ends (.error error))
    (told : ends (.ok value)) :
    (do
      let now : Instant ← Operation.ask .readClock
      layer.invalidate cacheKey (event now)
      return value : Operation α).Abides terms ends := by
  refine Operation.abides_bind (Operation.abides_ask (lets.mild _ trivial) fun now _ => ?_)
  refine Operation.abides_bind
    ((Layer.invalidate_failing lets.followsUp lets.wrong _ _).mono fun outcome _ => ?_)
  cases outcome with
  | ok _ => exact Operation.abides_pure told
  | error error => exact failed error

private theorem abides_writeFlag_recalling :
    (service.writeFlag write expected).Abides (recallingTerms exchanges) fun outcome =>
      ∀ flag, outcome = .ok flag →
        ∃ exchange ∈ exchanges, Hands write.environment write.key exchange flag := by
  have lets := (letsServe_recalling exchanges service).spares
  refine Operation.abides_bind (Operation.abides_require (fun _ => ?_)
    fun _ _ _ failed => by cases failed)
  refine Operation.abides_bind (Operation.abides_call (fun _ _ _ same => by cases same)
    (lets.mild _ trivial) fun reply given => ?_)
  cases reply with
  | failed error => exact fun _ returned => by cases returned
  | timedOut => exact fun _ returned => by cases returned
  | answered written =>
      cases written with
      | none =>
          refine (abides_rejectWrite lets.followsUp write expected).mono
            fun outcome reported flag returned => ?_
          obtain ⟨reply, _, rfl⟩ := reported
          cases reply <;> cases returned
      | some flag =>
          refine abides_tell lets (fun _ _ returned => by cases returned) fun other returned => ?_
          cases returned
          exact ⟨_, given, .shown (.written write expected flag rfl rfl)⟩

/-- Terms by which nothing more is written of flags. -/
private def settledTerms : Terms where
  asks request := ∀ write expected, request ≠ .call (.applyFlagWrite write expected)
  gives _ _ := True

private theorem letsServe_settled (service : Service) :
    LetsServe settledTerms service fun _ => True where
  free := by
    rintro _ free write expected rfl
    cases free
  fills := {
    flags := by
      intro environment key flag given write expected same
      cases same
    overrides := by
      intro scope now value given write expected same
      cases same }
  upserts _ _ _ _ _ _ same := by cases same
  wrong := .anyhow _
  forbidden _ := trivial

/-- A write asks the store once, first, and reports a conflict where that is refused. -/
private theorem run_writeFlag (service : Service) (write : FlagWrite) (expected : Option Int64) :
    ∃ resume,
      (service.layer.writeFlag write expected).run =
          .step (.call (.applyFlagWrite write expected)) resume ∧
        (∀ reply, (resume reply).Abides settledTerms fun _ => True) ∧
          resume (.answered none) = (Layer.rejectWrite write expected).run := by
  have lets := (letsServe_settled service).spares
  refine ⟨_, rfl, fun reply => ?_, rfl⟩
  cases reply with
  | failed error => trivial
  | timedOut => exact ⟨lets.mild _ trivial, fun _ _ => trivial⟩
  | answered written =>
      cases written with
      | none => exact (abides_rejectWrite lets.followsUp write expected).mono fun _ _ => trivial
      | some flag => exact abides_tell lets (fun _ => trivial) trivial

end Terms

section Conflicts

variable {write : FlagWrite} {expected : Option Int64}

/-- What is left of a job whose write was refused reports what it is told of the version. -/
private theorem Job.reports_of_rejected {job : Job} {made : List Exchange}
    {next : (Request.call (.applyFlagWrite write expected)).Reply →
      Program (Except ServiceError job.task.Answer)}
    (leads : job.operation.run.Leads made (.step (.call (.applyFlagWrite write expected)) next)) :
    write.check = .ok () ∧ ∀ exchanges,
      (next (.answered none)).Abides (recallingTerms exchanges) fun outcome =>
        ∃ reply, ⟨.call (.readFlagVersion write.environment write.key), reply⟩ ∈ exchanges ∧
          Reports write (expected.getD 0) reply outcome := by
  obtain ⟨place, service, task⟩ := job
  by_cases isWrite : ∃ write expected, task = .writeFlag write expected
  · obtain ⟨asked, askedExpected, rfl⟩ := isWrite
    obtain ⟨resume, runs, settled, rejects⟩ := run_writeFlag service asked askedExpected
    simp only [operation, Task.operation, Service.writeFlag] at leads
    cases checked : asked.check with
    | error cause =>
        rw [checked] at leads
        have refused : (Program.done (.error (.validation cause))).Leads made
            (.step (.call (.applyFlagWrite write expected)) next) :=
          leads
        cases refused
    | ok passed =>
        rw [checked] at leads
        have begun : (service.layer.writeFlag asked askedExpected).run.Leads made
            (.step (.call (.applyFlagWrite write expected)) next) :=
          leads
        rw [runs] at begun
        cases begun with
        | here =>
            refine ⟨checked, fun exchanges => ?_⟩
            rw [rejects]
            have lets := (letsServe_recalling exchanges service).spares
            exact abides_rejectWrite lets.followsUp write expected
        | further reply later =>
            have left := later.abides (settled reply) fun _ _ => trivial
            exact absurd rfl (left.1 write expected)
  · have settled := leads.abides (Task.abides (letsServe_settled service) task
      (fun write expected same => absurd ⟨write, expected, same⟩ isWrite) fun _ _ => trivial)
      fun _ _ => trivial
    exact absurd rfl (settled.1 write expected)

/-- What a job returns it was handed. -/
private theorem Job.exists_hands_of_returns {job : Job} {environment key : String}
    {version : Int64} {exchanges : List Exchange}
    {left : Program (Except ServiceError job.task.Answer)}
    (leads : job.operation.run.Leads exchanges left)
    (returns : job.task.Returns environment key version left) :
    ∃ exchange ∈ exchanges, ∃ flag, Hands environment key exchange flag ∧
      flag.version = version := by
  obtain ⟨place, service, task⟩ := job
  cases returns with
  | read flag isVersion =>
      have ends := leads.abides abides_getFlag_recalling fun _ member => member
      obtain ⟨exchange, member, hands⟩ := ends flag rfl
      exact ⟨exchange, member, flag, hands, isVersion⟩
  | written write expected flag sameEnvironment sameKey isVersion =>
      subst sameEnvironment sameKey
      have ends := leads.abides abides_writeFlag_recalling fun _ member => member
      obtain ⟨exchange, member, hands⟩ := ends flag rfl
      exact ⟨exchange, member, flag, hands, isVersion⟩

/-- A write is refused only where a later version than the expected one is stored. -/
private theorem reaches_of_refused {table : FlagTable} {environment key : String}
    {expected : Int64}
    (numbered : table.IsNumbered environment key)
    (known : expected = 0 ∨ table.Reaches environment key expected.toInt)
    (refused : FlagTable.applies (table.row? environment key) (some expected) = false) :
    table.Reaches environment key (expected.toInt + 1) := by
  cases found : table.row? environment key with
  | none =>
      rw [found] at refused
      rcases known with rfl | ⟨row, isRow, _⟩
      · cases refused
      · cases found.symm.trans isRow
  | some row =>
      have positive := numbered row found
      simp only [found, FlagTable.applies, Bool.and_eq_false_iff, bne_eq_false_iff_eq,
        beq_eq_false_iff_ne] at refused
      refine ⟨row, found, ?_⟩
      rcases refused with rfl | different
      · exact positive
      · rcases known with rfl | ⟨other, isRow, notLower⟩
        · exact positive
        · cases found.symm.trans isRow
          omega

/-- A version that is read where a later one than another is stored is later than the other. -/
private theorem exists_version_of_reaches {table : FlagTable} {environment key : String}
    {expected : Int64} {actual : Option Int64}
    (numbered : table.IsNumbered environment key)
    (reaches : table.Reaches environment key (expected.toInt + 1))
    (read : table.version environment key = .ok actual) :
    ∃ version, actual = some version ∧ expected < version := by
  obtain ⟨row, found, later⟩ := reaches
  simp only [FlagTable.version, found, FlagRow.readVersion] at read
  split at read
  · rename_i inRange
    cases read
    refine ⟨_, rfl, Int64.lt_iff_toInt_lt.mpr ?_⟩
    have positive := numbered row found
    unfold FlagRow.versionBound at inRange
    rw [Int64.toInt_ofInt_of_le (by omega) (by omega)]
    omega
  · cases read

variable {jobs : Nat → Job} {start : World}

end Conflicts

namespace Raced

/-- One instance over a database without rows. -/
def start : World :=
  ({ calendar := Instant.mayDay } : World).addInstance {}

/-- What every job writes. -/
def write : FlagWrite where
  environment := "prod"
  key := "beta.search"
  enabledDefault := true
  rules := []
  lastEditorId := none

/-- The second job expects the version that the first one leaves, and the others expect none. -/
def writers (number : Nat) : Job :=
  ⟨0, InstanceSettings.service {}, .writeFlag write (if number = 1 then some 1 else none)⟩

/-- A flag is written and written over. -/
def before : List Turn :=
  List.replicate 5 (.resume 0) ++ [.resume 2]

/-- Another write comes between the refusal and its report. -/
def after : List Turn :=
  [.resume 3, .resume 1, .resume 1]

/-- What is exchanged before the refusal, and where everybody is then. -/
def earlier : List Entry × Floor writers :=
  takeTurns before (.opening writers start)

/-- The turn in which the write of the second job is refused. -/
def rejection : List Entry × Floor writers :=
  (Turn.resume 1).take earlier.2

/-- What is exchanged from then on, and where everybody is in the end. -/
def later : List Entry × Floor writers :=
  takeTurns after rejection.2

/-- Whether the write of the second job was refused in a turn. -/
def isRefusal : List Entry → Bool
  | [⟨number, ⟨.call (.applyFlagWrite asked expected), .answered none⟩⟩] =>
      number = 1 && asked = write && expected = some 1
  | _ => false

private theorem eq_of_isRefusal {log : List Entry} (refusal : isRefusal log = true) :
    log = [⟨1, ⟨.call (.applyFlagWrite write (some 1)), .answered none⟩⟩] := by
  unfold isRefusal at refusal
  split at refusal
  · simp only [Bool.and_eq_true, decide_eq_true_eq] at refusal
    obtain ⟨⟨rfl, rfl⟩, rfl⟩ := refusal
    rfl
  · cases refusal

/-- The version of the flag that a job wrote. -/
def version? : (task : Task) → Program (Except ServiceError task.Answer) → Option Int64
  | .writeFlag _ _, .done (.ok flag) => some flag.version
  | _, _ => none

/-- The versions of a conflict that a job reports. -/
def conflict? : Program (Except ServiceError α) → Option (Int64 × Option Int64)
  | .done (.error (.versionConflict _ _ expected actual)) => some (expected, actual)
  | _ => none

private theorem done_of_conflict {program : Program (Except ServiceError α)}
    {expected : Int64} {actual : Option Int64}
    (reports : conflict? program = some (expected, actual)) :
    ∃ environment key,
      program = .done (.error (.versionConflict environment key expected actual)) := by
  unfold conflict? at reports
  split at reports
  · cases reports
    exact ⟨_, _, rfl⟩
  · cases reports

end Raced

end Switchboard.Guarding
