import Switchboard.Exposure.Record
import Switchboard.Invalidation
import Switchboard.Metrics.Basic
import Switchboard.Override.Basic
import Switchboard.ServiceError
import Switchboard.Targeting.Flag

namespace Switchboard

/-!
# Programs

An operation of the service as a tree: each node is one request to the world around
it (the cache, a store, the bus, the clock, the metrics, the sink of exposures), and
each reply leads to a subtree.  A handler that answers requests runs a program to
its end; the nodes are the points between which other operations may run.
-/

/-- A call that is given up when it takes too long. -/
inductive Call where
  | cacheGet (key : String)
  | cacheSet (key value : String) (lifetime : Nat)
  | cacheDelete (key : String)
  | publish (topic : String) (event : Invalidation)
  | readFlag (environment key : String)
  | applyFlagWrite (write : FlagWrite) (expected : Option Int64)
  | readFlagVersion (environment key : String)
  | findOverride (scope : Scope) (now : Instant)
  | upsertOverride (scope : Scope) (value : Bool) (expiresAt : Option Instant)
  | clearOverride (scope : Scope)
  deriving DecidableEq, Repr

namespace Call

/-- What a call gives when it succeeds. -/
@[reducible] def Answer : Call → Type
  | cacheGet _ => Option String
  | cacheSet .. => Unit
  | cacheDelete _ => Unit
  | publish .. => Nat
  | readFlag .. => Option Flag
  | applyFlagWrite .. => Option Flag
  | readFlagVersion .. => Option Int64
  | findOverride .. => Option OverrideValue
  | upsertOverride .. => Override
  | clearOverride _ => Unit

/-- The name under which a call that took too long is reported. -/
def operation : Call → String
  | cacheGet _ => "cache get"
  | cacheSet .. => "cache set"
  | cacheDelete _ => "cache del"
  | publish .. => "bus publish"
  | readFlag .. => "flag lookup"
  | applyFlagWrite .. => "flag write"
  | readFlagVersion .. => "flag write"
  | findOverride .. => "override lookup"
  | upsertOverride .. => "override write"
  | clearOverride _ => "override delete"

end Call

/-- How a call ends. -/
inductive Outcome (α : Type) where
  | answered (value : α)
  | failed (error : ServiceError)
  | timedOut
  deriving Repr

/-- A request to the world. -/
inductive Request where
  | call (asked : Call)
  /-- The stored overrides that wait to be swept. -/
  | listDead (now : Instant) (limit : Nat)
  /-- Remove stored overrides that still wait to be swept. -/
  | purge (ids : List OverrideId) (now : Instant)
  | readClock
  | count (counter : Counter) (amount : Nat)
  | observeBatch (keys : Nat)
  | logExposures (records : List Exposure)
  deriving DecidableEq, Repr

/-- What the world replies. -/
@[reducible] def Request.Reply : Request → Type
  | .call asked => Outcome asked.Answer
  | .listDead .. => Except ServiceError (List Override)
  | .purge .. => Except ServiceError Nat
  | .readClock => Instant
  | .count .. => Unit
  | .observeBatch _ => Unit
  | .logExposures _ => Except ServiceError Unit

/-- A program: an answer, or a request and what follows each reply. -/
inductive Program (α : Type) where
  | done (value : α)
  | step (request : Request) (resume : request.Reply → Program α)

namespace Program

/-- Go on with another program where one ends. -/
def bind (program : Program α) (next : α → Program β) : Program β :=
  match program with
  | .done value => next value
  | .step request resume => .step request fun reply => bind (resume reply) next

instance : Monad Program where
  pure := .done
  bind := bind

/-- A single request. -/
def ask (request : Request) : Program request.Reply :=
  .step request .done

/-- Run a program with a handler that changes a state. -/
def run
    (handler : (request : Request) → State → request.Reply × State)
    (program : Program α)
    (state : State) :
    α × State :=
  match program with
  | .done value => (value, state)
  | .step request resume =>
      let (reply, later) := handler request state
      run handler (resume reply) later

/-- Nothing follows an answer but the answer. -/
theorem bind_done (program : Program α) : program.bind .done = program := by
  induction program with
  | done value => rfl
  | step request resume inductionHypothesis => simp [bind, inductionHypothesis]

/-- It does not matter how three programs in a row are grouped. -/
theorem bind_assoc
    (program : Program α)
    (next : α → Program β)
    (last : β → Program γ) :
    (program.bind next).bind last = program.bind fun value => (next value).bind last := by
  induction program with
  | done value => rfl
  | step request resume inductionHypothesis => simp [bind, inductionHypothesis]

/-- Running two programs in a row runs the second where the first ended. -/
theorem run_bind
    (handler : (request : Request) → State → request.Reply × State)
    (program : Program α)
    (next : α → Program β)
    (state : State) :
    (program.bind next).run handler state =
      (next (program.run handler state).1).run handler (program.run handler state).2 := by
  induction program generalizing state with
  | done value => rfl
  | step request resume inductionHypothesis => simp [bind, run, inductionHypothesis]

instance : LawfulMonad Program :=
  LawfulMonad.mk' Program bind_done (fun _ _ => rfl) bind_assoc

end Program

/-- A program that may fail. -/
abbrev Operation (α : Type) : Type :=
  ExceptT ServiceError Program α

namespace Operation

/-- An operation that asks once and cannot fail. -/
def ask (request : Request) : Operation request.Reply :=
  ExceptT.lift (Program.ask request)

/-- Count something once. -/
def count (counter : Counter) : Operation Unit :=
  ask (.count counter 1)

/-- A call whose failure is the failure of the operation; one given up is counted. -/
def call (call : Call) : Operation call.Answer := do
  match ← ask (.call call) with
  | .answered value => return value
  | .failed error => throw error
  | .timedOut =>
      count ⟨.storeTimeouts, [call.operation]⟩
      throw (.timeout call.operation)

/-- The outcome of an operation, which is then no failure. -/
def attempt (operation : Operation α) : Operation (Except ServiceError α) :=
  ExceptT.lift operation.run

/-- Refuse what was found invalid. -/
def require (checked : Except ValidationError Unit) : Operation Unit :=
  match checked with
  | .ok () => return ()
  | .error cause => throw (.validation cause)

end Operation

end Switchboard
