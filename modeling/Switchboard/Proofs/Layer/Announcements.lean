import Switchboard.Proofs.Deployment.Answers
import Switchboard.Proofs.Layer.Histories

namespace Switchboard

/-!
# Announcements

A write asks the store, and goes on only where the store says that the write was applied.
Then the entry is dropped and the news are published, once each and in this order, whatever
becomes of either; the write fails as the drop did, and never as the news did.

What is asked is read off a run of the program under a handler of any kind, so that each
call may end in each way.
-/

/-- Whether a request was a call, which a cache, a bus or a store answers. -/
def Exchange.isCall (exchange : Exchange) : Bool :=
  match exchange.request with
  | .call _ => true
  | _ => false

/-- The exchanges of a program that is run to its end. -/
def Program.exchanges
    (handler : (request : Request) → State → request.Reply × State)
    (program : Program α)
    (state : State) :
    List Exchange :=
  match program with
  | .done _ => []
  | .step request resume =>
      let (reply, later) := handler request state
      ⟨request, reply⟩ :: exchanges handler (resume reply) later

/-- The exchanges of two programs in a row are those of the first, then those of the second. -/
theorem Program.exchanges_bind
    (handler : (request : Request) → State → request.Reply × State)
    (program : Program α)
    (next : α → Program β)
    (state : State) :
    (program.bind next).exchanges handler state =
      program.exchanges handler state ++
        (next (program.run handler state).1).exchanges handler (program.run handler state).2 := by
  induction program generalizing state with
  | done value => rfl
  | step request resume inductionHypothesis =>
      simp [bind, exchanges, run, inductionHypothesis]

namespace Operation

variable {State : Type} {handler : (request : Request) → State → request.Reply × State}
variable {state middle later : State} {earlier made : List Exchange}

/-- The calls of an operation that is run to its end, each with how it ended. -/
def calls
    (handler : (request : Request) → State → request.Reply × State)
    (operation : Operation α)
    (state : State) :
    List Exchange :=
  (operation.run.exchanges handler state).filter Exchange.isCall

/-- An operation makes these calls and no others, and ends so. -/
structure Goes
    (handler : (request : Request) → State → request.Reply × State)
    (operation : Operation α)
    (state : State)
    (made : List Exchange)
    (outcome : Except ServiceError α)
    (later : State) : Prop where
  performs : perform handler operation state = (outcome, later)
  makes : calls handler operation state = made

theorem goes_pure (value : α) : Goes handler (pure value) state [] (.ok value) state :=
  ⟨rfl, rfl⟩

theorem goes_throw (error : ServiceError) :
    Goes handler (throw error : Operation α) state [] (.error error) state :=
  ⟨rfl, rfl⟩

/-- What follows an operation exchanges after it, unless it failed. -/
theorem exchanges_bind
    (handler : (request : Request) → State → request.Reply × State)
    (operation : Operation α)
    (next : α → Operation β)
    (state : State) :
    (operation >>= next).run.exchanges handler state =
      operation.run.exchanges handler state ++
        match perform handler operation state with
        | (.ok value, later) => (next value).run.exchanges handler later
        | (.error _, _) => [] := by
  unfold perform
  rw [ExceptT.run_bind]
  refine (Program.exchanges_bind handler operation.run _ state).trans ?_
  rcases Program.run handler operation.run state with ⟨outcome, later⟩
  cases outcome with
  | ok value => rfl
  | error error => rfl

/-- A program that cannot fail exchanges what it exchanges by itself. -/
theorem exchanges_lift
    (handler : (request : Request) → State → request.Reply × State)
    (program : Program α)
    (state : State) :
    (ExceptT.lift program : Operation α).run.exchanges handler state =
      program.exchanges handler state := by
  refine (Program.exchanges_bind handler program _ state).trans ?_
  exact List.append_nil _

private theorem calls_bind (operation : Operation α) (next : α → Operation β) (state : State) :
    calls handler (operation >>= next) state =
      calls handler operation state ++
        match perform handler operation state with
        | (.ok value, later) => calls handler (next value) later
        | (.error _, _) => [] := by
  unfold calls
  rw [exchanges_bind, List.filter_append]
  rcases perform handler operation state with ⟨outcome, later⟩
  cases outcome with
  | ok value => rfl
  | error error => rfl

/-- What follows an operation that answered makes its calls after those before. -/
theorem goes_bind_ok {operation : Operation α} {value : α} {outcome : Except ServiceError β}
    (next : α → Operation β)
    (first : Goes handler operation state earlier (.ok value) middle)
    (second : Goes handler (next value) middle made outcome later) :
    Goes handler (operation >>= next) state (earlier ++ made) outcome later where
  performs := (perform_bind_ok handler next first.performs).trans second.performs
  makes := by
    rw [calls_bind, first.performs, first.makes]
    exact congrArg (earlier ++ ·) second.makes

/-- Nothing follows an operation that failed. -/
theorem goes_bind_error {operation : Operation α} {error : ServiceError}
    (next : α → Operation β)
    (first : Goes handler operation state earlier (.error error) later) :
    Goes handler (operation >>= next) state earlier (.error error) later where
  performs := perform_bind_error handler next first.performs
  makes := by rw [calls_bind, first.performs, first.makes, List.append_nil]

/-- An operation that ends with a fixed value fails as what is before that value does. -/
theorem goes_then_pure {operation : Operation α} {outcome : Except ServiceError α} (value : β)
    (first : Goes handler operation state made outcome later) :
    Goes handler (operation >>= fun _ => pure value) state made
      (outcome.map fun _ => value) later := by
  cases outcome with
  | error error => exact goes_bind_error _ first
  | ok result =>
      have ended := goes_bind_ok (fun _ => pure value) first (goes_pure value)
      rwa [List.append_nil] at ended

theorem goes_attempt {operation : Operation α} {outcome : Except ServiceError α}
    (first : Goes handler operation state made outcome later) :
    Goes handler operation.attempt state made (.ok outcome) later where
  performs := by rw [perform_attempt, first.performs]
  makes := by
    have lifted := Program.exchanges_bind handler operation.run
      (fun outcome => .done (Except.ok (ε := ServiceError) outcome)) state
    refine (congrArg (List.filter Exchange.isCall) lifted).trans ?_
    rw [List.filter_append]
    exact (List.append_nil _).trans first.makes

theorem goes_readClock :
    Goes handler (ask .readClock) state [] (.ok (handler .readClock state).1)
      (handler .readClock state).2 :=
  ⟨rfl, rfl⟩

theorem goes_count (counter : Counter) :
    Goes handler (count counter) state [] (.ok ()) (handler (.count counter 1) state).2 :=
  ⟨rfl, rfl⟩

/-- An operation of one call makes that call, also where it is given up and counted. -/
theorem goes_call (handler : (request : Request) → State → request.Reply × State)
    (asked : Call) (state : State) :
    Goes handler (call asked) state [⟨.call asked, (handler (.call asked) state).1⟩]
      ((handler (.call asked) state).1.toExcept asked.operation)
      (perform handler (call asked) state).2 where
  performs := by rw [perform_call]
  makes := by
    have asks : Goes handler (ask (.call asked)) state
        [⟨.call asked, (handler (.call asked) state).1⟩]
        (.ok (handler (.call asked) state).1) (handler (.call asked) state).2 :=
      ⟨rfl, rfl⟩
    unfold call
    rw [calls_bind, asks.performs, asks.makes]
    cases (handler (.call asked) state).1 with
    | answered value => rfl
    | failed error => rfl
    | timedOut => rfl

/-- An operation calls the store first, and the rest of it comes of what the store says. -/
def Follows
    (handler : (request : Request) → State → request.Reply × State)
    (operation : Operation α)
    (state : State)
    (asked : Call)
    (comes : Except ServiceError asked.Answer → List Exchange → Except ServiceError α → Prop) :
    Prop :=
  ∃ rest,
    calls handler operation state = ⟨.call asked, (handler (.call asked) state).1⟩ :: rest ∧
      comes ((handler (.call asked) state).1.toExcept asked.operation) rest
        (perform handler operation state).1

/-- What follows a call runs where it was answered; a call that was not is the only one. -/
theorem follows_call_bind {asked : Call} {next : asked.Answer → Operation β}
    {comes : Except ServiceError asked.Answer → List Exchange → Except ServiceError β → Prop}
    (answered : ∀ value middle,
      comes (.ok value) (calls handler (next value) middle)
        (perform handler (next value) middle).1)
    (unanswered : ∀ error, comes (.error error) [] (.error error)) :
    Follows handler (call asked >>= next) state asked comes := by
  have first := goes_call handler asked state
  cases answer : (handler (.call asked) state).1.toExcept asked.operation with
  | ok value =>
      rw [answer] at first
      have goes := goes_bind_ok next first ⟨rfl, rfl⟩
      refine ⟨_, goes.makes, ?_⟩
      rw [answer, goes.performs]
      exact answered value _
  | error error =>
      rw [answer] at first
      have goes := goes_bind_error next first
      refine ⟨[], goes.makes, ?_⟩
      rw [answer, goes.performs]
      exact unanswered error

end Operation

namespace Layer

open Operation

variable {State : Type} (handler : (request : Request) → State → request.Reply × State)

/--
One call to drop an entry, one to publish the news, and an end that depends on the first of
them only.
-/
def Announces
    (topic cacheKey : String)
    (event : Instant → Invalidation)
    (value : α)
    (calls : List Exchange)
    (outcome : Except ServiceError α) :
    Prop :=
  ∃ (now : Instant) (dropped : Outcome Unit) (told : Outcome Nat),
    calls =
        [⟨.call (.cacheDelete cacheKey), dropped⟩, ⟨.call (.publish topic (event now)), told⟩] ∧
      outcome = (dropped.toExcept "cache del").map fun _ => value

/-- A conflict asks for the stored version and for nothing else. -/
def Rejects
    (write : FlagWrite)
    (expected : Option Int64)
    (calls : List Exchange)
    (outcome : Except ServiceError Flag) :
    Prop :=
  ∃ actual : Outcome (Option Int64),
    calls = [⟨.call (.readFlagVersion write.environment write.key), actual⟩] ∧
      outcome = (actual.toExcept "flag write").bind fun version =>
        .error (.versionConflict write.environment write.key (expected.getD 0) version)

/-- What comes of a write of a flag, by what the store says to it. -/
def WritesFlag
    (layer : Layer)
    (write : FlagWrite)
    (expected : Option Int64)
    (answer : Except ServiceError (Option Flag))
    (calls : List Exchange)
    (outcome : Except ServiceError Flag) :
    Prop :=
  match answer with
  | .ok (some flag) =>
      Announces layer.topic (flagCacheKey flag.environment flag.key)
        (.flagUpdated flag.environment flag.key flag.version) flag calls outcome
  | .ok none => Rejects write expected calls outcome
  | .error error => calls = [] ∧ outcome = .error error

/-- What comes of a write of an override, by what the store says to it. -/
def WritesOverride
    (layer : Layer)
    (scope : Scope)
    (answer : Except ServiceError α)
    (calls : List Exchange)
    (outcome : Except ServiceError α) :
    Prop :=
  match answer with
  | .ok stored =>
      Announces layer.topic (overrideCacheKey scope) (.overrideChanged scope) stored calls outcome
  | .error error => calls = [] ∧ outcome = .error error

/-- The news go out after the drop, and what the drop gave comes back. -/
private theorem goes_invalidate (layer : Layer) (cacheKey : String) (event : Invalidation)
    (state : State) :
    ∃ (dropped : Outcome Unit) (told : Outcome Nat) (later : State),
      Goes handler (layer.invalidate cacheKey event) state
        [⟨.call (.cacheDelete cacheKey), dropped⟩, ⟨.call (.publish layer.topic event), told⟩]
        (dropped.toExcept "cache del") later := by
  have drops := goes_attempt (goes_call handler (.cacheDelete cacheKey) state)
  have tells := goes_attempt (goes_call handler (.publish layer.topic event)
    (perform handler (call (.cacheDelete cacheKey)) state).2)
  generalize (handler (.call (.cacheDelete cacheKey)) state).1 = dropped at drops
  generalize (handler (.call (.publish layer.topic event))
    (perform handler (call (.cacheDelete cacheKey)) state).2).1 = told at tells
  refine ⟨dropped, told, ?_⟩
  simp only [Call.operation] at drops tells
  generalize dropped.toExcept "cache del" = result at drops ⊢
  cases reached : told.toExcept "bus publish" with
  | ok count =>
      rw [reached] at tells
      cases result with
      | ok value =>
          exact ⟨_, goes_bind_ok _ drops (goes_bind_ok _ tells
            (goes_bind_ok _ (goes_count _) (goes_pure ())))⟩
      | error error =>
          exact ⟨_, goes_bind_ok _ drops (goes_bind_ok _ tells
            (goes_bind_ok _ (goes_count _) (goes_throw error)))⟩
  | error failure =>
      rw [reached] at tells
      cases result with
      | ok value =>
          exact ⟨_, goes_bind_ok _ drops (goes_bind_ok _ tells
            (goes_bind_ok _ (goes_count _) (goes_pure ())))⟩
      | error error =>
          exact ⟨_, goes_bind_ok _ drops (goes_bind_ok _ tells
            (goes_bind_ok _ (goes_count _) (goes_throw error)))⟩

/-- The news of a write are made when the clock is read, and the write ends with its value. -/
private theorem announces_of_eq {layer : Layer} {cacheKey : String}
    {event : Instant → Invalidation} {value : α} {operation : Operation α}
    (same :
      operation = do
        let now : Instant ← ask .readClock
        layer.invalidate cacheKey (event now)
        return value)
    (state : State) :
    Announces layer.topic cacheKey event value (calls handler operation state)
      (perform handler operation state).1 := by
  subst same
  obtain ⟨dropped, told, later, goes⟩ := goes_invalidate handler layer cacheKey
    (event (handler .readClock state).1) (handler .readClock state).2
  have announces := goes_bind_ok
    (fun now : Instant => do layer.invalidate cacheKey (event now); return value)
    goes_readClock (goes_then_pure value goes)
  exact ⟨_, dropped, told, announces.makes, congrArg Prod.fst announces.performs⟩

private theorem rejects_rejectWrite (write : FlagWrite) (expected : Option Int64)
    (state : State) :
    Rejects write expected (calls handler (rejectWrite write expected) state)
      (perform handler (rejectWrite write expected) state).1 := by
  obtain ⟨rest, made, rfl, outcome⟩ : Follows handler (rejectWrite write expected) state
      (.readFlagVersion write.environment write.key) fun answer rest outcome =>
        rest = [] ∧ outcome = answer.bind fun version =>
          .error (.versionConflict write.environment write.key (expected.getD 0) version) :=
    follows_call_bind (fun _ _ => ⟨rfl, rfl⟩) fun _ => ⟨rfl, rfl⟩
  exact ⟨_, made, outcome⟩

theorem follows_writeFlag (layer : Layer) (write : FlagWrite)
    (expected : Option Int64) (state : State) :
    Follows handler (layer.writeFlag write expected) state (.applyFlagWrite write expected)
      (layer.WritesFlag write expected) := by
  refine follows_call_bind (fun written middle => ?_) fun error => ⟨rfl, rfl⟩
  cases written with
  | none => exact rejects_rejectWrite handler write expected middle
  | some flag => exact announces_of_eq handler rfl middle

theorem follows_upsertOverride (layer : Layer) (scope : Scope) (value : Bool)
    (expiresAt : Option Instant) (state : State) :
    Follows handler (layer.upsertOverride scope value expiresAt) state
      (.upsertOverride scope value expiresAt) (layer.WritesOverride scope) := by
  refine follows_call_bind (fun stored middle => ?_) fun error => ⟨rfl, rfl⟩
  exact announces_of_eq handler (by simp only [announceOverride, bind_assoc]) middle

theorem follows_clearOverride (layer : Layer) (scope : Scope) (state : State) :
    Follows handler (layer.clearOverride scope) state (.clearOverride scope)
      (layer.WritesOverride scope) := by
  refine follows_call_bind (fun cleared middle => ?_) fun error => ⟨rfl, rfl⟩
  exact announces_of_eq handler (by simp only [announceOverride, bind_pure_unit]) middle

/--
A write that the store says it applied drops the entry of what it wrote and then publishes the
news of it, once each, and no other write does.  It ends with the error of the store, with a
version conflict, with the error of the drop or with no error, and what becomes of the news
changes nothing.  In a deployment the news name what was written, under the version that is
now stored, and a conflict is one with a version that the writer expected.
-/
theorem announces_exactly_applied_writes
    (layer : Layer)
    (state : State) :
    (∀ write expected,
      Follows handler (layer.writeFlag write expected) state (.applyFlagWrite write expected)
        (layer.WritesFlag write expected)) ∧
    (∀ scope value expiresAt,
      Follows handler (layer.upsertOverride scope value expiresAt) state
        (.upsertOverride scope value expiresAt) (layer.WritesOverride scope)) ∧
    (∀ scope,
      Follows handler (layer.clearOverride scope) state (.clearOverride scope)
        (layer.WritesOverride scope)) ∧
    ∀ (world : World) place write expected,
      match world.handle place (.call (.applyFlagWrite write expected)) with
      | (.answered (some flag), later) =>
          flag.environment = write.environment ∧ flag.key = write.key ∧
            later.database.flags.version write.environment write.key = .ok (some flag.version)
      | (.answered none, _) => ∃ version, expected = some version
      | _ => True := by
  refine ⟨fun write expected => follows_writeFlag handler layer write expected state,
    fun scope value expiresAt => follows_upsertOverride handler layer scope value expiresAt state,
    fun scope => follows_clearOverride handler layer scope state, ?_⟩
  intro world place write expected
  split
  · rename_i flag later applied
    exact World.stored_of_applied applied
  · rename_i later rejected
    exact World.expects_of_rejected (congrArg Prod.fst rejected)
  · trivial

end Layer

end Switchboard
