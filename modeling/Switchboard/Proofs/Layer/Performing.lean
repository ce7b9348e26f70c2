import Switchboard.Program

namespace Switchboard

/-!
# Performing operations

What it means for an operation to be run to its end by a handler, piece by piece:
each lemma takes one step of an operation apart, so that no later proof opens the
tree of its program.
-/

/-- What a call gives within an operation. -/
def Outcome.toExcept (operation : String) : Outcome α → Except ServiceError α
  | .answered value => .ok value
  | .failed error => .error error
  | .timedOut => .error (.timeout operation)

/-- The outcome of a call that a store answers. -/
def Outcome.ofExcept : Except ServiceError α → Outcome α
  | .ok value => .answered value
  | .error error => .failed error

/-- What a store answers is what the call gives. -/
@[simp] theorem Outcome.toExcept_ofExcept (operation : String) (answer : Except ServiceError α) :
    (Outcome.ofExcept answer).toExcept operation = answer := by
  cases answer with
  | ok value => rfl
  | error error => rfl

/-- What a call is answered with is what the store answers. -/
theorem Outcome.answered_eq_ofExcept_iff {value : α} {answer : Except ServiceError α} :
    .answered value = Outcome.ofExcept answer ↔ answer = .ok value := by
  cases answer with
  | ok other => simp [ofExcept, eq_comm]
  | error error => simp [ofExcept]

namespace Operation

variable {State : Type} (handler : (request : Request) → State → request.Reply × State)

/-- Run an operation to its end. -/
def perform (operation : Operation α) (state : State) : Except ServiceError α × State :=
  Program.run handler operation.run state

/-- An answer asks for nothing. -/
@[simp] theorem perform_pure (value : α) (state : State) :
    perform handler (pure value) state = (.ok value, state) :=
  rfl

/-- A failure asks for nothing. -/
@[simp] theorem perform_throw (error : ServiceError) (state : State) :
    perform handler (throw error : Operation α) state = (.error error, state) :=
  rfl

/-- What follows an operation runs where it ended, unless it failed. -/
theorem perform_bind (operation : Operation α) (next : α → Operation β) (state : State) :
    perform handler (operation >>= next) state =
      match perform handler operation state with
      | (.ok value, later) => perform handler (next value) later
      | (.error error, later) => (.error error, later) := by
  unfold perform
  rw [ExceptT.run_bind]
  refine (Program.run_bind handler operation.run _ state).trans ?_
  rcases Program.run handler operation.run state with ⟨outcome, later⟩
  cases outcome with
  | ok value => rfl
  | error error => rfl

/-- What follows an operation that answered. -/
theorem perform_bind_ok {operation : Operation α} {state later : State} {value : α}
    (next : α → Operation β)
    (ended : perform handler operation state = (.ok value, later)) :
    perform handler (operation >>= next) state = perform handler (next value) later := by
  rw [perform_bind, ended]

/-- Nothing follows an operation that failed. -/
theorem perform_bind_error {operation : Operation α} {state later : State} {error : ServiceError}
    (next : α → Operation β)
    (ended : perform handler operation state = (.error error, later)) :
    perform handler (operation >>= next) state = (.error error, later) := by
  rw [perform_bind, ended]

/-- What follows an operation may be replaced by what goes the same way. -/
theorem perform_bind_congr {operation : Operation α} {next other : α → Operation β}
    {state : State}
    (same : ∀ value later,
      perform handler (next value) later = perform handler (other value) later) :
    perform handler (operation >>= next) state = perform handler (operation >>= other) state := by
  rw [perform_bind, perform_bind]
  rcases perform handler operation state with ⟨outcome, later⟩
  cases outcome with
  | ok value => exact same value later
  | error error => rfl

/-- A request that cannot fail gives its reply. -/
@[simp] theorem perform_ask (request : Request) (state : State) :
    perform handler (ask request) state =
      (.ok (handler request state).1, (handler request state).2) :=
  rfl

/-- Counting is one request. -/
@[simp] theorem perform_count (counter : Counter) (state : State) :
    perform handler (count counter) state =
      (.ok (), (handler (.count counter 1) state).2) :=
  rfl

/-- What is found out without asking. -/
@[simp] theorem perform_known (known : Except ServiceError α) (state : State) :
    perform handler (ExceptT.mk (pure known)) state = (known, state) :=
  rfl

/-- A program that cannot fail gives what it ends with. -/
theorem perform_lift (program : Program α) (state : State) :
    perform handler (ExceptT.lift program) state =
      (.ok (program.run handler state).1, (program.run handler state).2) :=
  Program.run_bind handler program
    (fun value => .done (Except.ok (ε := ServiceError) value)) state

/-- An attempt does not fail. -/
@[simp] theorem perform_attempt (operation : Operation α) (state : State) :
    perform handler operation.attempt state =
      (.ok (perform handler operation state).1, (perform handler operation state).2) :=
  perform_lift handler operation.run state

/-- A call gives what its outcome says, and one that is given up is counted. -/
theorem perform_call (asked : Call) (state : State) :
    perform handler (call asked) state =
      ((handler (.call asked) state).1.toExcept asked.operation,
        match (handler (.call asked) state).1 with
        | .timedOut =>
            (handler (.count ⟨.storeTimeouts, [asked.operation]⟩ 1)
              (handler (.call asked) state).2).2
        | _ => (handler (.call asked) state).2) := by
  unfold call
  rw [perform_bind, perform_ask]
  cases (handler (.call asked) state).1 with
  | answered value => rfl
  | failed error => rfl
  | timedOut => rfl

/-- What every request leaves true is true after an operation. -/
theorem perform_keeps {keeps : State → Prop}
    (each : ∀ request state, keeps state → keeps (handler request state).2)
    (operation : Operation α) {state : State} (kept : keeps state) :
    keeps (perform handler operation state).2 := by
  unfold perform
  induction operation.run generalizing state with
  | done value => exact kept
  | step request resume inductionHypothesis =>
      exact inductionHypothesis _ (each request state kept)

end Operation

end Switchboard
