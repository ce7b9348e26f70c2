import Switchboard.Proofs.Deployment.Faults
import Switchboard.Proofs.Validity.Rows
import Switchboard.Proofs.Validity.Tasks

namespace Switchboard.Guarding

open Interleaving (Entry)

/-!
# Only valid rows are stored

Any number of tasks run at once, with any arguments, while time passes and backends come and
go.  No row is left but a valid one.  The validation refuses exactly the tasks that no caller
may ask for, and a task that it refuses does nothing at all.
-/

/-- Whether the validation is the one that refuses. -/
def IsComplaint (error : ServiceError) : Prop :=
  ∃ cause, error = .validation cause

/-- Whatever a deployment replies, it does not find the request invalid. -/
theorem uncomplaining_handle (world : World) (place : Nat) (request : Request)
    {error : ServiceError}
    (brought : request.errorOf (world.handle place request).1 = some error) :
    ¬IsComplaint error :=
  fun ⟨cause, same⟩ => (world.isFault_handle place request brought).ne_validation cause same

/-! ## Jobs that are refused -/

namespace Job

variable {job : Job} {cause : ValidationError}

/-- Whether the validation refuses a job that the guard lets through. -/
def IsInvalid (job : Job) (cause : ValidationError) : Prop :=
  job.isRefused = false ∧ job.task.check job.service = .error cause

private theorem guard_check_eq_ok {guard : Guard} {key : String} {administrator : Bool}
    (allowed : (if guard.Refuses key administrator then some key else none).isSome = false) :
    guard.check key administrator = .ok () := by
  refine Guard.check_of_not_refuses fun refuses => ?_
  rw [if_pos refuses] at allowed
  cases allowed

private theorem run_authorize {service : Service} {scope : Scope} {administrator : Bool}
    (allowed : service.guard.check scope.key administrator = .ok ())
    (refused : scope.check = .error cause)
    (next : Unit → Operation α) :
    (service.authorize scope administrator >>= next).run = .done (.error (.validation cause)) := by
  unfold Service.authorize
  rw [allowed, refused]
  rfl

/-- A job that the validation refuses is over before it began. -/
theorem run_of_isInvalid (invalid : job.IsInvalid cause) :
    job.operation.run = .done (.error (.validation cause)) := by
  obtain ⟨place, service, task⟩ := job
  obtain ⟨allowed, refused⟩ := invalid
  cases task with
  | writeFlag write expected =>
      simp only [Task.check] at refused
      simp only [operation, Task.operation, Service.writeFlag, refused]
      rfl
  | getFlag environment key =>
      simp only [Task.check] at refused
      simp only [operation, Task.operation, Service.getFlag]
      cases named : checkEnvironment environment with
      | error error =>
          rw [named] at refused
          cases refused
          rfl
      | ok value =>
          rw [named] at refused
          have keyed : checkFlagKey key = .error cause := refused
          rw [keyed]
          rfl
  | setOverride scope value expiresAt administrator =>
      exact run_authorize (guard_check_eq_ok allowed) refused _
  | patchOverride scope patch administrator =>
      exact run_authorize (guard_check_eq_ok allowed) refused _
  | clearOverride scope administrator =>
      exact run_authorize (guard_check_eq_ok allowed) refused _
  | getOverride scope =>
      simp only [Task.check] at refused
      simp only [operation, Task.operation, Service.getOverride, refused]
      rfl
  | evaluate environment? keys context =>
      simp only [Task.check] at refused
      simp only [operation, Task.operation, Service.evaluate, Evaluator.evaluate, refused]
      rfl
  | evaluateValues environment? keys context =>
      simp only [Task.check] at refused
      simp only [operation, Task.operation, Service.evaluateValues, Evaluator.evaluateValues,
        Evaluator.evaluate, refused]
      rfl
  | sweep now limit => cases refused

/-- A complaint is about this job. -/
def IsBlamedBy (job : Job) (error : ServiceError) : Prop :=
  ∀ cause, error = .validation cause → job.IsInvalid cause

end Job

/-- Nothing but what is valid is written, and no reply is a complaint. -/
def properTerms : Terms where
  asks := Request.IsProper
  gives request reply := ∀ error, request.errorOf reply = some error → ¬IsComplaint error

private theorem isProper_of_isFree {request : Request} (free : IsFree request) :
    request.IsProper := by
  unfold Request.IsProper
  split
  · exact free.elim
  · exact free.elim
  · trivial

/-- A job writes what is valid, and fails by a complaint only where it is invalid. -/
theorem Job.abides (job : Job) :
    job.operation.Abides properTerms (FailsOnlyBy job.IsBlamedBy) := by
  cases allowed : job.isRefused with
  | true =>
      obtain ⟨key, refused⟩ := Option.isSome_iff_exists.mp allowed
      show job.operation.run.Abides properTerms _
      rw [job.run_of_refused refused]
      exact ⟨trivial, fun _ _ => failsOnlyBy_error fun _ same => by cases same⟩
  | false =>
      have wrong : properTerms.GoesWrongBy job.IsBlamedBy := by
        refine { replied := ?_, timedOut := ?_, conflicted := ?_ }
        · intro request reply error given brought cause same
          exact absurd ⟨cause, same⟩ (given error brought)
        · intro operation cause same
          cases same
        · intro environment key expected actual cause same
          cases same
      have lets : LetsServe properTerms job.service job.IsBlamedBy := by
        refine {
          free := fun request free => isProper_of_isFree free
          fills := ⟨fun _ _ _ _ => trivial, fun _ _ _ _ => trivial⟩
          upserts := fun scope value expiresAt passed => Scope.check_eq_ok_iff.mp passed
          wrong := wrong
          forbidden := ?_ }
        intro key cause same
        cases same
      refine Task.abides lets job.task ?_ ?_
      · intro write expected _ passed
        exact FlagWrite.check_eq_ok_iff.mp passed
      · intro cause refused other same
        cases same
        exact ⟨allowed, refused⟩

/-! ## Runs -/

/-- What happens but that backends turn leaves the rows and the health of all backends. -/
theorem Happening.sameStores_take (happening : Happening) (world : World) :
    World.SameStores world (happening.take world) ∨
      ∃ place backends, happening = .turn place backends := by
  cases happening with
  | wait milliseconds => exact .inl (World.sameStores_advance _ _)
  | pass calendar => exact .inl (.of_instances rfl rfl)
  | listen place => exact .inl (World.SameStores.keptInBackground.drainListener _ _)
  | send place => exact .inl (World.SameStores.keptInBackground.settleSink _ _)
  | shutdown place => exact .inl (World.sameStores_shutdown _ _)
  | turn place backends => exact .inr ⟨place, backends, rfl⟩
  | lose bus => exact .inl (.of_instances rfl rfl)

/-- Nothing is stored but for a caller. -/
theorem Happening.database_take (happening : Happening) (world : World) :
    (happening.take world).database = world.database := by
  rcases happening.sameStores_take world with same | ⟨place, backends, rfl⟩
  · exact same.database
  · rfl

variable {jobs : Nat → Job}

/--
All rows are valid, all jobs go on within their terms, and those that the validation refuses
are over without an exchange.
-/
structure IsOrderly (log : List Entry) (floor : Floor jobs) : Prop where
  rows : floor.world.database.IsValid
  programs : ∀ number,
    (floor.programs number).Abides properTerms (FailsOnlyBy (jobs number).IsBlamedBy)
  refused : ∀ number cause, (jobs number).IsInvalid cause →
    floor.programs number = .done (.error (.validation cause)) ∧
      ∀ entry ∈ log, entry.number ≠ number

namespace IsOrderly

variable {log : List Entry} {floor : Floor jobs}

theorem opening (jobs : Nat → Job) {start : World} (began : start.database.IsValid) :
    IsOrderly [] (.opening jobs start) where
  rows := began
  programs number := (jobs number).abides
  refused number cause invalid :=
    ⟨(jobs number).run_of_isInvalid invalid, fun _ member => by cases member⟩

theorem meanwhile (orderly : IsOrderly log floor) (happening : Happening) :
    IsOrderly log { floor with world := happening.take floor.world } where
  rows := by
    rw [happening.database_take]
    exact orderly.rows
  programs := orderly.programs
  refused := orderly.refused

theorem resume (orderly : IsOrderly log floor) (number : Nat) :
    let turned := (Turn.resume number).take floor
    IsOrderly (log ++ turned.1) turned.2 := by
  have abides := orderly.programs number
  cases waiting : floor.programs number with
  | done outcome =>
      simp only [Turn.take, waiting, List.append_nil]
      exact orderly
  | step request next =>
      rw [waiting] at abides
      obtain ⟨proper, continues⟩ := abides
      simp only [Turn.take, waiting]
      refine { rows := ?_, programs := fun other => ?_, refused := fun other cause invalid => ?_ }
      · exact World.isValid_handle orderly.rows (jobs number).place proper
      · by_cases here : other = number
        · subst here
          simp only [Function.update_self]
          exact continues _ fun error brought =>
            uncomplaining_handle floor.world (jobs other).place request brought
        · simp only [Function.update_of_ne here]
          exact orderly.programs other
      · obtain ⟨ended, untouched⟩ := orderly.refused other cause invalid
        have isOther : other ≠ number := by
          rintro rfl
          rw [waiting] at ended
          cases ended
        simp only [Function.update_of_ne isOther]
        refine ⟨ended, fun entry member => ?_⟩
        rcases List.mem_append.mp member with isOld | isNew
        · exact untouched entry isOld
        · cases List.mem_singleton.mp isNew
          exact isOther.symm

theorem take_turns (orderly : IsOrderly log floor) (turns : List Turn) :
    let taken := takeTurns turns floor
    IsOrderly (log ++ taken.1) taken.2 := by
  induction turns generalizing log floor with
  | nil => simpa [takeTurns] using orderly
  | cons turn rest inductionHypothesis =>
      cases turn with
      | meanwhile happening => exact inductionHypothesis (orderly.meanwhile happening)
      | resume number =>
          have further := inductionHypothesis (orderly.resume number)
          simpa [takeTurns, List.append_assoc] using further

end IsOrderly

/-- An invalid task is refused by some complaint. -/
private theorem exists_isInvalid {job : Job} :
    (∃ cause, job.IsInvalid cause) ↔
      job.isRefused = false ∧ ¬job.task.IsValid job.service := by
  rw [← Task.check_eq_ok_iff]
  constructor
  · rintro ⟨cause, allowed, refused⟩
    refine ⟨allowed, fun passed => ?_⟩
    rw [refused] at passed
    cases passed
  · rintro ⟨allowed, invalid⟩
    cases checked : job.task.check job.service with
    | ok value => exact absurd checked invalid
    | error cause => exact ⟨cause, allowed, checked⟩

/--
Whatever jobs are under way in whatever order and whatever happens meanwhile, all rows are
valid if they were: they hold the rules of valid writes, and are read back as these wherever a
clock shows the bounds of their windows.  Of the jobs that the guards let through, the validation
refuses exactly those that no caller may ask for; such a job asked for nothing, and changes no
world.
-/
theorem stored_rows_are_valid
    (jobs : Nat → Job)
    {start : World}
    (began : start.database.IsValid)
    (turns : List Turn) :
    let taken := takeTurns turns (.opening jobs start)
    taken.2.world.database.IsValid ∧
      ∀ number, let job := jobs number
        ((∃ cause, taken.2.programs number = .done (.error (.validation cause))) ↔
            job.isRefused = false ∧ ¬job.task.IsValid job.service) ∧
          ∀ cause, taken.2.programs number = .done (.error (.validation cause)) →
            (∀ entry ∈ taken.1, entry.number ≠ number) ∧
              ∀ world : World, world.perform job.place job.operation =
                (.error (.validation cause), world) := by
  intro taken
  have orderly : IsOrderly ([] ++ taken.1) taken.2 :=
    (IsOrderly.opening jobs began).take_turns turns
  rw [List.nil_append] at orderly
  have blamed (number : Nat) (cause : ValidationError)
      (ended : taken.2.programs number = .done (.error (.validation cause))) :
      (jobs number).IsInvalid cause := by
    have abides := orderly.programs number
    rw [ended] at abides
    exact abides _ rfl cause rfl
  refine ⟨orderly.rows, fun number => ⟨?_, fun cause ended => ?_⟩⟩
  · rw [← exists_isInvalid]
    exact exists_congr fun cause => ⟨blamed number cause, fun invalid =>
      (orderly.refused number cause invalid).1⟩
  · have invalid := blamed number cause ended
    refine ⟨(orderly.refused number cause invalid).2, fun world => ?_⟩
    unfold World.perform
    rw [Job.run_of_isInvalid invalid]
    rfl

namespace Bounded

/-- One instance over a database without rows. -/
def start : World :=
  ({ calendar := Instant.mayDay } : World).addInstance {}

/-- A flag for so many of a hundred subjects. -/
def write (threshold : UInt8) : FlagWrite where
  environment := "prod"
  key := "beta.search"
  enabledDefault := false
  rules := [⟨[], true⟩, ⟨[.timeWindow none none, .percentage threshold], true⟩]
  lastEditorId := none

/-- The first job writes the flag for all subjects, the others for more than there are. -/
def writers (number : Nat) : Job :=
  ⟨0, InstanceSettings.service {}, .writeFlag (write (if number = 0 then 100 else 101)) none⟩

/-- The second job is asked in the midst of the first. -/
def turns : List Turn :=
  [.resume 0, .resume 1, .resume 0, .resume 0]

end Bounded

open Bounded in
/-- The first job leaves a row, which is valid, and the second is refused. -/
theorem stored_rows_are_valid_bounded :
    start.database.IsValid ∧
      let taken := takeTurns turns (.opening writers start)
      taken.2.world.database.flags.rows.length = 1 ∧ taken.2.world.database.IsValid ∧
        ∃ cause, taken.2.programs 1 = .done (.error (.validation cause)) := by
  have began : start.database.IsValid := Database.isValid_empty
  obtain ⟨valid, refuses⟩ := stored_rows_are_valid writers began turns
  refine ⟨began, by decide +kernel, valid, (refuses 1).1.mpr ⟨rfl, fun isValid => ?_⟩⟩
  have bounded := isValid.rules ⟨[.timeWindow none none, .percentage 101], true⟩ (by decide)
    (.percentage 101) (by decide)
  exact absurd (bounded.percentage 101 rfl) (by decide)

namespace Inverted

/-- A flag for those who come between an instant that no clock shows and one soon after it. -/
def rules : List Rule :=
  [⟨[.timeWindow (some .withinMinute) (some .fifthSecond)], true⟩]

/-- Every job writes the flag. -/
def writer (_ : Nat) : Job :=
  ⟨0, InstanceSettings.service {}, .writeFlag ⟨"prod", "beta.search", false, rules, none⟩ none⟩

end Inverted

open Inverted in
/-- A window that is in order when it is written is read back with its bounds the wrong way. -/
theorem stored_window_withinMinute_is_inverted :
    Bounded.start.database.IsValid ∧
      ∃ row ∈ (takeTurns [.resume 0] (.opening writer Bounded.start)).2.world.database.flags.rows,
        ∃ opens closes,
          Wire.decode? (α := List Rule) row.rules =
              some [⟨[.timeWindow (some opens) (some closes)], true⟩] ∧
            closes < opens := by
  have began : Bounded.start.database.IsValid := Database.isValid_empty
  have texts : (takeTurns [.resume 0] (.opening writer
      Bounded.start)).2.world.database.flags.rows.map FlagRow.rules = [Wire.encode rules] := by
    decide +kernel
  obtain ⟨row, member, isText⟩ := List.mem_map.mp (texts ▸ List.mem_singleton_self _)
  refine ⟨began, row, member, Instant.withinMinute.shown, Instant.fifthSecond.shown, ?_, ?_⟩
  · rw [isText]
    exact FaithfulWire.decode_encode rules
  · decide

end Switchboard.Guarding
