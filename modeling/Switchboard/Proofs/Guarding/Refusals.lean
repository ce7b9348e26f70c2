import Mathlib.Logic.Function.Basic
import Switchboard.Proofs.Guarding.Blindness
import Switchboard.Proofs.Interleaving.Floor

namespace Switchboard.Guarding

open Interleaving (Entry past past_append)

/-!
# Guarded overrides are out of reach

Administrators and others call the services of a deployment, any number of them at once, while
time passes and backends come and go.  A run without the calls that the guards refuse is the
same run: what was asked, answered and returned, and what is stored, cached and published.
-/

/-- What a caller asks of a service, for itself or as an administrator. -/
inductive Task where
  | writeFlag (write : FlagWrite) (expected : Option Int64)
  | getFlag (environment key : String)
  | setOverride (scope : Scope) (value : Bool) (expiresAt : Option Instant) (administrator : Bool)
  | patchOverride (scope : Scope) (patch : OverridePatch) (administrator : Bool)
  | clearOverride (scope : Scope) (administrator : Bool)
  | getOverride (scope : Scope)
  | evaluate (environment? : Option String) (keys : List String) (context : Context)
  | evaluateValues (environment? : Option String) (keys : List String) (context : Context)
  | sweep (now : Instant) (limit : Nat)

namespace Task

/-- What a task gives when it succeeds. -/
@[reducible] def Answer : Task → Type
  | writeFlag .. => Flag
  | getFlag .. => Option Flag
  | setOverride .. => Override
  | patchOverride .. => Option Override
  | clearOverride .. => Unit
  | getOverride _ => Option OverrideValue
  | evaluate .. => List (String × Resolution)
  | evaluateValues .. => List (String × Bool)
  | sweep .. => Nat

/-- The operation of a service that does a task. -/
def operation (service : Service) : (task : Task) → Operation task.Answer
  | writeFlag write expected => service.writeFlag write expected
  | getFlag environment key => service.getFlag environment key
  | setOverride scope value expiresAt administrator =>
      service.setOverride scope value expiresAt administrator
  | patchOverride scope patch administrator => service.patchOverride scope patch administrator
  | clearOverride scope administrator => service.clearOverride scope administrator
  | getOverride scope => service.getOverride scope
  | evaluate environment? keys context => service.evaluate environment? keys context
  | evaluateValues environment? keys context => service.evaluateValues environment? keys context
  | sweep now limit => service.sweep now limit

/-- The key of the override that a task changes, and whether an administrator asks for it. -/
def change? : Task → Option (String × Bool)
  | setOverride scope _ _ administrator => some (scope.key, administrator)
  | patchOverride scope _ administrator => some (scope.key, administrator)
  | clearOverride scope administrator => some (scope.key, administrator)
  | _ => none

end Task

/-- A task for a service, whose requests the instance in a place answers. -/
structure Job where
  place : Nat
  service : Service
  task : Task

namespace Job

variable {job : Job} {key : String}

/-- The operation that does the task of a job. -/
def operation (job : Job) : Operation job.task.Answer :=
  job.task.operation job.service

/-- The guarded key of a job that changes an override of it, but not for an administrator. -/
def refusedKey? (job : Job) : Option String :=
  job.task.change?.bind fun (key, administrator) =>
    if job.service.guard.Refuses key administrator then some key else none

/-- Whether the guard of the service refuses a job. -/
def isRefused (job : Job) : Bool :=
  job.refusedKey?.isSome

private theorem check_of_refused {guard : Guard} {asked : String} {administrator : Bool}
    (refused : (if guard.Refuses asked administrator then some asked else none) = some key) :
    guard.check asked administrator = .error (.forbidden key) := by
  obtain ⟨refuses, isKey⟩ := Option.ite_none_right_eq_some.mp refused
  cases isKey
  exact Guard.check_of_refuses refuses

/-- A refused job counts the attempt and fails, whatever the scope and the world. -/
theorem run_of_refused (refused : job.refusedKey? = some key) :
    job.operation.run =
      .step (.count attemptsCounter 1) fun _ => .done (.error (.forbidden key)) := by
  obtain ⟨place, service, task⟩ := job
  cases task with
  | setOverride scope value expiresAt administrator =>
      exact Service.run_of_unauthorized (check_of_refused refused) _
  | patchOverride scope patch administrator =>
      exact Service.run_of_unauthorized (check_of_refused refused) _
  | clearOverride scope administrator =>
      exact Service.run_of_unauthorized (check_of_refused refused) _
  | _ => cases refused

theorem perform_of_refused (refused : job.refusedKey? = some key) (world : World) :
    world.perform job.place job.operation =
      (.error (.forbidden key), world.modifyInstance job.place fun state =>
        { state with metrics := state.metrics.add attemptsCounter 1 }) := by
  unfold World.perform
  rw [run_of_refused refused]
  rfl

end Job

/-! ## Runs -/

/-- What may happen to a deployment besides the work for its callers. -/
inductive Happening where
  /-- The clock runs on, and all background work with it. -/
  | wait (milliseconds : Nat)
  | pass (calendar : Instant)
  /-- A listener takes everything that waits for it. -/
  | listen (place : Nat)
  /-- The loop of a sink runs until it waits. -/
  | send (place : Nat)
  | shutdown (place : Nat)
  /-- The backends of an instance fail, hang or work again. -/
  | turn (place : Nat) (backends : Backends)
  /-- Whatever becomes of the invalidations that are under way. -/
  | lose (bus : Bus)

/-- The world after a happening. -/
def Happening.take (happening : Happening) (world : World) : World :=
  match happening with
  | wait milliseconds => world.advance milliseconds
  | pass calendar => { world with calendar }
  | listen place => world.drainListener place
  | send place => world.settleSink place
  | shutdown place => world.shutdown place
  | turn place backends => world.modifyInstance place fun state => { state with backends }
  | lose bus => { world with bus }

theorem Happening.isBlind_take (happening : Happening) : World.IsBlind happening.take := by
  cases happening with
  | wait milliseconds => exact World.isBlind_advance milliseconds
  | pass calendar => exact World.isBlind_aside fun _ _ => rfl
  | listen place => exact World.isBlind_drainListener place
  | send place => exact World.isBlind_settleSink place
  | shutdown place => exact World.isBlind_shutdown place
  | turn place backends =>
      exact World.isBlind_modifyInstance place _ (fun _ _ => rfl) fun _ => rfl
  | lose bus => exact World.isBlind_aside fun _ _ => rfl

/-- Who goes on: the caller of a job by one exchange, or the deployment. -/
inductive Turn where
  | resume (number : Nat)
  | meanwhile (happening : Happening)

/-- The world, and what is left to do of each job. -/
structure Floor (jobs : Nat → Job) where
  world : World
  programs : (number : Nat) → Program (Except ServiceError (jobs number).task.Answer)

variable {jobs : Nat → Job}

/-- No job has begun. -/
def Floor.opening (jobs : Nat → Job) (world : World) : Floor jobs :=
  ⟨world, fun number => (jobs number).operation.run⟩

/-- Take a turn: the exchange that was made, if any, and the floor after. -/
def Turn.take (turn : Turn) (floor : Floor jobs) : List Entry × Floor jobs :=
  match turn with
  | resume number =>
      match floor.programs number with
      | .done _ => ([], floor)
      | .step request next =>
          let (reply, world) := floor.world.handle (jobs number).place request
          ([⟨number, ⟨request, reply⟩⟩],
            ⟨world, Function.update floor.programs number (next reply)⟩)
  | meanwhile happening => ([], { floor with world := happening.take floor.world })

/-- Take turns: the exchanges in their order, and the floor after. -/
def takeTurns : List Turn → Floor jobs → List Entry × Floor jobs
  | [], floor => ([], floor)
  | turn :: rest, floor =>
      let (entries, later) := turn.take floor
      let (laterEntries, last) := takeTurns rest later
      (entries ++ laterEntries, last)

/-- An operation that nobody interrupts is some turns in a row. -/
theorem exists_turns_of_run (number : Nat) (floor : Floor jobs) :
    ∃ count,
      let ended := (floor.programs number).run (World.handle (jobs number).place) floor.world
      (takeTurns (List.replicate count (.resume number)) floor).2 =
        ⟨ended.2, Function.update floor.programs number (.done ended.1)⟩ := by
  generalize waiting : floor.programs number = program
  induction program generalizing floor with
  | done outcome =>
      refine ⟨0, ?_⟩
      simp only [Program.run, ← waiting, Function.update_eq_self]
      rfl
  | step request next inductionHypothesis =>
      obtain ⟨reply, world, handled⟩ :
          ∃ reply world, floor.world.handle (jobs number).place request = (reply, world) :=
        ⟨_, _, rfl⟩
      obtain ⟨count, ended⟩ := inductionHypothesis reply
        ⟨world, Function.update floor.programs number (next reply)⟩
        (Function.update_self number (next reply) floor.programs)
      refine ⟨count + 1, ?_⟩
      simp only [List.replicate_succ, takeTurns, Turn.take, waiting, handled, Program.run, ended,
        Function.update_idem]

/-! ## Runs with and without refused jobs -/

/-- Whether a turn stays when the refused jobs are left out. -/
def Turn.isKept (jobs : Nat → Job) : Turn → Bool
  | resume number => !(jobs number).isRefused
  | meanwhile _ => true

/-- Whether an exchange stays when the refused jobs are left out. -/
def isKeptEntry (jobs : Nat → Job) (entry : Entry) : Bool :=
  !(jobs entry.number).isRefused

/-- The number of attempts that were refused in a place. -/
def attempts (jobs : Nat → Job) (log : List Entry) (place : Nat) : Nat :=
  log.countP fun entry => (jobs entry.number).isRefused && (jobs entry.number).place == place

/-- A refused job has not begun, or it has counted the attempt and failed. -/
inductive Refusal (key : String) : List Exchange → Program (Except ServiceError α) → Prop where
  | waits :
      Refusal key [] (.step (.count attemptsCounter 1) fun _ => .done (.error (.forbidden key)))
  | failed : Refusal key [⟨.count attemptsCounter 1, ()⟩] (.done (.error (.forbidden key)))

/--
A run and the same run without its refused jobs: the others asked, were answered and returned
the same, the worlds are the same but for the attempts that were counted, and each refused job
counts its attempt and fails.
-/
structure Alike (log keptLog : List Entry) (full kept : Floor jobs) : Prop where
  exchanges : log.filter (isKeptEntry jobs) = keptLog
  programs : ∀ number, (jobs number).isRefused = false →
    full.programs number = kept.programs number
  worlds : World.SameBut (attempts jobs log) kept.world full.world
  refusals : ∀ number key, (jobs number).refusedKey? = some key →
    Refusal key (past log number) (full.programs number)

namespace Alike

variable {log keptLog : List Entry} {full kept : Floor jobs}

theorem opening (jobs : Nat → Job) (world : World) :
    Alike [] [] (.opening jobs world) (.opening jobs world) where
  exchanges := rfl
  programs _ _ := rfl
  worlds := .refl world
  refusals number key refused := by
    simp only [Floor.opening, Job.run_of_refused refused]
    exact .waits

theorem meanwhile (alike : Alike log keptLog full kept) (happening : Happening) :
    Alike log keptLog { full with world := happening.take full.world }
      { kept with world := happening.take kept.world } where
  exchanges := alike.exchanges
  programs := alike.programs
  worlds := happening.isBlind_take alike.worlds
  refusals := alike.refusals

private theorem past_snoc (log : List Entry) (number : Nat) (exchange : Exchange) (other : Nat) :
    past (log ++ [⟨number, exchange⟩]) other =
      past log other ++ if number = other then [exchange] else [] := by
  rw [past_append]
  by_cases here : number = other
  · simp [past, here]
  · simp [past, here]

/-- A job that is not refused goes on alike in both runs. -/
theorem resume_kept (alike : Alike log keptLog full kept) {number : Nat}
    (isKept : (jobs number).isRefused = false) :
    let fullTurn := (Turn.resume number).take full
    let keptTurn := (Turn.resume number).take kept
    Alike (log ++ fullTurn.1) (keptLog ++ keptTurn.1) fullTurn.2 keptTurn.2 := by
  have same := alike.programs number isKept
  cases waiting : kept.programs number with
  | done outcome =>
      simp only [Turn.take, same, waiting, List.append_nil]
      exact alike
  | step request next =>
      obtain ⟨reply, worlds⟩ :=
        World.answersBlindly_handle (jobs number).place request alike.worlds
      simp only [Turn.take, same, waiting, reply]
      generalize (kept.world.handle (jobs number).place request).1 = given
      refine { exchanges := ?_, programs := ?_, worlds := ?_, refusals := ?_ }
      · rw [List.filter_append, alike.exchanges]
        simp [isKeptEntry, isKept]
      · intro other isKeptOther
        by_cases here : other = number
        · subst here
          simp only [Function.update_self]
        · simp only [Function.update_of_ne here]
          exact alike.programs other isKeptOther
      · have counted : attempts jobs (log ++ [⟨number, ⟨request, given⟩⟩]) = attempts jobs log := by
          funext place
          simp [attempts, isKept]
        rw [counted]
        exact worlds
      · intro other key refused
        have isOther : other ≠ number := by
          rintro rfl
          simp [Job.isRefused, refused] at isKept
        rw [past_snoc, if_neg (Ne.symm isOther), List.append_nil]
        simp only [Function.update_of_ne isOther]
        exact alike.refusals other key refused

/-- A job that is refused goes on in one run, and the other stays. -/
theorem resume_refused (alike : Alike log keptLog full kept) {number : Nat}
    (isRefused : (jobs number).isRefused = true) :
    let fullTurn := (Turn.resume number).take full
    Alike (log ++ fullTurn.1) keptLog fullTurn.2 kept := by
  obtain ⟨key, refused⟩ := Option.isSome_iff_exists.mp isRefused
  have refusal := alike.refusals number key refused
  generalize exchanged : past log number = exchanges, waiting : full.programs number = program
    at refusal
  cases refusal with
  | failed =>
      simp only [Turn.take, waiting, List.append_nil]
      exact alike
  | waits =>
      simp only [Turn.take, waiting]
      refine { exchanges := ?_, programs := ?_, worlds := ?_, refusals := ?_ }
      · rw [List.filter_append, alike.exchanges]
        simp [isKeptEntry, isRefused]
      · intro other isKept
        have isOther : other ≠ number := by
          rintro rfl
          simp [isRefused] at isKept
        simp only [Function.update_of_ne isOther]
        exact alike.programs other isKept
      · have counted (exchange : Exchange) :
            attempts jobs (log ++ [⟨number, exchange⟩]) = fun place =>
              if place = (jobs number).place then attempts jobs log place + 1
              else attempts jobs log place := by
          funext place
          by_cases here : place = (jobs number).place
          · simp [attempts, isRefused, here]
          · simp [attempts, isRefused, here, Ne.symm here]
        rw [counted]
        exact alike.worlds.attempted (jobs number).place
      · intro other otherKey otherRefused
        rw [past_snoc]
        by_cases here : other = number
        · subst here
          rw [refused] at otherRefused
          cases otherRefused
          rw [exchanged, if_pos rfl]
          simp only [Function.update_self]
          exact .failed
        · rw [if_neg (Ne.symm here), List.append_nil]
          simp only [Function.update_of_ne here]
          exact alike.refusals other otherKey otherRefused

/-- Turns that are left out lead one run on while the other stays; all others lead both on. -/
theorem take_turns (alike : Alike log keptLog full kept) (turns : List Turn) :
    let fullRun := takeTurns turns full
    let keptRun := takeTurns (turns.filter (Turn.isKept jobs)) kept
    Alike (log ++ fullRun.1) (keptLog ++ keptRun.1) fullRun.2 keptRun.2 := by
  induction turns generalizing log keptLog full kept with
  | nil => simpa [takeTurns] using alike
  | cons turn rest inductionHypothesis =>
      cases turn with
      | meanwhile happening =>
          exact inductionHypothesis (alike.meanwhile happening)
      | resume number =>
          cases isRefused : (jobs number).isRefused with
          | false =>
              have further := inductionHypothesis (alike.resume_kept isRefused)
              simpa [takeTurns, Turn.isKept, isRefused, List.append_assoc] using further
          | true =>
              have further := inductionHypothesis (alike.resume_refused isRefused)
              simpa [takeTurns, Turn.isKept, isRefused, List.append_assoc] using further

end Alike

/--
Whatever jobs are under way in whatever order and whatever happens meanwhile, the run without
the jobs that the guards refuse is alike.  A refused job fails as forbidden in any world,
valid scope or not, and does nothing but count the attempt.
-/
theorem guarded_overrides_out_of_reach (jobs : Nat → Job) (turns : List Turn) (world : World) :
    let full := takeTurns turns (.opening jobs world)
    let kept := takeTurns (turns.filter (Turn.isKept jobs)) (.opening jobs world)
    Alike full.1 kept.1 full.2 kept.2 ∧
      ∀ number key, (jobs number).refusedKey? = some key → ∀ world : World,
        world.perform (jobs number).place (jobs number).operation =
          (.error (.forbidden key), world.modifyInstance (jobs number).place fun state =>
            { state with metrics := state.metrics.add attemptsCounter 1 }) := by
  intro full kept
  refine ⟨?_, fun number key refused world => Job.perform_of_refused refused world⟩
  have alike := (Alike.opening jobs world).take_turns turns
  simpa only [List.nil_append] using alike

namespace Attempted

/-- A guarded flag, and nobody to whom an override of it could belong. -/
def scope : Scope :=
  ⟨"prod", "platform.read_only", .user, ""⟩

/-- A service with the guard that is the default. -/
def service : Service :=
  ⟨⟨⟨{}, .propagate⟩, "prod"⟩, {}⟩

/-- One caller tries to clear the override, and all others read the flag. -/
def asked : Nat → Job
  | 0 => ⟨0, service, .clearOverride scope false⟩
  | _ => ⟨0, service, .getFlag "prod" "platform.read_only"⟩

/-- A world with one instance, whose store is down. -/
def world : World :=
  (World.addInstance { calendar := .mayDay } {}).modifyInstance 0 fun state =>
    { state with backends := { flags := .failing, overrides := .failing } }

/-- The attempt is made while the flag is read. -/
def turns : List Turn :=
  [.resume 1, .resume 0, .resume 1, .resume 1]

/-- The run with the attempt. -/
def full : List Entry × Floor asked :=
  takeTurns turns (.opening asked world)

/-- The run without it. -/
def kept : List Entry × Floor asked :=
  takeTurns (turns.filter (Turn.isKept asked)) (.opening asked world)

end Attempted

open Attempted in
/--
The attempt is refused as forbidden though its scope is not valid and the store is down.  The
reader, who asked before it and after it, is told the same as without it.
-/
theorem guarded_overrides_out_of_reach_attempted :
    (asked 0).refusedKey? = some "platform.read_only" ∧ scope.check ≠ .ok () ∧
      full.2.programs 0 = .done (.error (.forbidden "platform.read_only")) ∧
      full.1.map Entry.number = [1, 0, 1, 1] ∧ kept.1.map Entry.number = [1, 1, 1] ∧
      full.1.filter (isKeptEntry asked) = kept.1 ∧
      full.2.programs 1 = kept.2.programs 1 ∧
      World.SameBut (attempts asked full.1) kept.2.world full.2.world := by
  obtain ⟨alike, fails⟩ := guarded_overrides_out_of_reach asked turns world
  have invalid : scope.check = .error .emptyScopeId := rfl
  refine ⟨rfl, by simp [invalid], rfl, rfl, rfl, alike.exchanges, alike.programs 1 rfl, ?_⟩
  exact alike.worlds

end Switchboard.Guarding
