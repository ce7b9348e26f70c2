import Mathlib.Data.List.Sort
import Switchboard.Proofs.Batch.Schedules
import Switchboard.Proofs.Layer.Changes
import Switchboard.Proofs.Validity.Grammar

namespace Switchboard.Evaluator

/-!
# Calls for many keys

A call that is refused asks for nothing.  Any other resolves each key once, and hands the sink
what it answers with, or nothing where it fails; what becomes of that no caller learns.
-/

/-- Hand the answers to the sink and give them back. -/
def report
    (environment : String)
    (context : Context)
    (now : Instant)
    (answers : List (String × Resolution)) :
    Operation (List (String × Resolution)) := do
  dispatch (answers.map fun (key, resolution) =>
    recordOf environment context (context.instantAt now) key resolution)
  return answers

/-- The resolution of each key, not begun. -/
def pending
    (evaluator : Evaluator)
    (environment : String)
    (context : Context)
    (key : String) :
    Program (Except ServiceError Resolution) :=
  (evaluator.resolver.resolve environment key context.tenantId context.userId context).run

/-- The resolutions of the requested keys, which go on in the order of a schedule. -/
def evaluateAlong
    (schedule : List String)
    (evaluator : Evaluator)
    (environment? : Option String)
    (keys : List String)
    (context : Context) :
    Operation (List (String × Resolution)) := do
  let environment := environment?.getD evaluator.defaultEnvironment
  Operation.require (check environment keys)
  let distinct := distinctKeys keys
  Operation.ask (.observeBatch distinct.length)
  let now : Instant ← Operation.ask .readClock
  let pinned := context.pinned now
  let answers ← joinAlong schedule (evaluator.pending environment pinned) distinct
  report environment pinned now answers

variable {evaluator : Evaluator} {environment : String} {environment? : Option String}
variable {keys : List String} {context : Context} {schedule : List String}

/-! ## Requests that are refused -/

/-- The complaint about a request: what is wrong first, and the first bad key. -/
inductive Refuses (environment : String) (keys : List String) : ValidationError → Prop where
  | noKeys : keys = [] → Refuses environment keys .emptyKeys
  | environment : keys ≠ [] → ¬IsEnvironmentName environment →
      Refuses environment keys (.invalidEnvironment environment)
  | key {earlier later : List String} {key : String} : IsEnvironmentName environment →
      keys = earlier ++ key :: later → (∀ passed ∈ earlier, IsKeyName passed) →
        ¬IsKeyName key → Refuses environment keys (.invalidFlagKey key)

private theorem checkFlagKey_eq_error_iff {key : String} {cause : ValidationError} :
    checkFlagKey key = .error cause ↔ ¬IsKeyName key ∧ cause = .invalidFlagKey key := by
  rw [← isFlagKey_iff]
  unfold checkFlagKey
  cases isFlagKey key with
  | true => simp
  | false => simp [eq_comm]

private theorem checkEnvironment_eq_error_iff {name : String} {cause : ValidationError} :
    checkEnvironment name = .error cause ↔
      ¬IsEnvironmentName name ∧ cause = .invalidEnvironment name := by
  rw [← isEnvironment_iff]
  unfold checkEnvironment
  cases isEnvironment name with
  | true => simp
  | false => simp [eq_comm]

/-- The check complains about what is wrong first. -/
theorem check_eq_error_iff {cause : ValidationError} :
    check environment keys = .error cause ↔ Refuses environment keys cause := by
  cases keys with
  | nil =>
      constructor
      · intro refused
        cases refused
        exact .noKeys rfl
      · intro refuses
        cases refuses with
        | noKeys _ => rfl
        | environment someKeys _ => exact absurd rfl someKeys
        | key _ parts _ _ => simp at parts
  | cons first rest =>
      have checks : check environment (first :: rest) =
          (checkEnvironment environment >>= fun _ => (first :: rest).forM checkFlagKey) :=
        rfl
      rw [checks]
      cases named : checkEnvironment environment with
      | error error =>
          obtain ⟨invalid, rfl⟩ := checkEnvironment_eq_error_iff.mp named
          constructor
          · intro refused
            cases refused
            exact .environment (List.cons_ne_nil first rest) invalid
          · intro refuses
            cases refuses with
            | noKeys none => cases none
            | environment _ _ => rfl
            | key valid _ _ _ => exact absurd valid invalid
      | ok value =>
          have valid := checkEnvironment_eq_ok_iff.mp named
          refine Iff.trans (b := (first :: rest).forM checkFlagKey = .error cause) Iff.rfl ?_
          rw [forM_eq_error_iff]
          simp only [checkFlagKey_eq_ok_iff, checkFlagKey_eq_error_iff]
          constructor
          · rintro ⟨earlier, key, later, parts, passed, invalid, rfl⟩
            exact .key valid parts passed invalid
          · intro refuses
            cases refuses with
            | noKeys none => cases none
            | environment _ invalid => exact absurd valid invalid
            | key _ parts passed invalid => exact ⟨_, _, _, parts, passed, invalid, rfl⟩

/-! ## The order of the keys -/

/-- Each requested key is resolved once, in increasing order. -/
theorem distinctKeys_sorted (keys : List String) : (distinctKeys keys).Pairwise (· < ·) :=
  (TextSet.ofList keys).sorted

theorem mem_distinctKeys {key : String} : key ∈ distinctKeys keys ↔ key ∈ keys :=
  TextSet.mem_ofList

/-- It does not matter in which order, or how often, keys are asked for. -/
theorem distinctKeys_congr {others : List String} (same : ∀ key, key ∈ others ↔ key ∈ keys) :
    distinctKeys others = distinctKeys keys :=
  (distinctKeys_sorted others).eq_of_mem_iff (distinctKeys_sorted keys) fun key => by
    rw [mem_distinctKeys, mem_distinctKeys, same]

/-! ## Schedules -/

/-- No resolution is over before it has asked for anything. -/
theorem pending_ne_done (evaluator : Evaluator) (environment : String) (context : Context)
    (key : String) (outcome : Except ServiceError Resolution) :
    evaluator.pending environment context key ≠ .done outcome := by
  unfold pending
  cases context.userId with
  | some userId => exact fun same => by cases same
  | none =>
      cases context.tenantId with
      | some tenantId => exact fun same => by cases same
      | none => exact fun same => by cases same

private theorem finish_pending (evaluator : Evaluator) (environment : String) (context : Context)
    (keys : List String) :
    finish (evaluator.pending environment context) keys =
      evaluator.resolveAll environment context keys := by
  induction keys with
  | nil => rfl
  | cons key rest inductionHypothesis =>
      simp only [finish, resolveAll, inductionHypothesis]
      rfl

/-- A schedule that leaves everything to the end is the order in which keys are resolved. -/
theorem evaluateAlong_nil (evaluator : Evaluator) (environment? : Option String)
    (keys : List String) (context : Context) :
    evaluator.evaluateAlong [] environment? keys context =
      evaluator.evaluate environment? keys context := by
  have inOrder (environment : String) (context : Context) :
      joinAlong [] (evaluator.pending environment context) (distinctKeys keys) =
        evaluator.resolveAll environment context (distinctKeys keys) := by
    rw [joinAlong_nil fun key _ => evaluator.pending_ne_done environment context key,
      finish_pending]
  unfold evaluateAlong evaluate
  simp only [inOrder]
  rfl

/-! ## What a call asks for -/

theorem run_of_refuses {cause : ValidationError}
    (refuses : Refuses (environment?.getD evaluator.defaultEnvironment) keys cause)
    (schedule : List String) (context : Context) :
    (evaluator.evaluateAlong schedule environment? keys context).run =
      .done (.error (.validation cause)) := by
  simp only [evaluateAlong, check_eq_error_iff.mpr refuses]
  rfl

/-- A call that is not refused counts its keys, reads the clock, resolves and reports. -/
theorem run_of_check
    (passed : check (environment?.getD evaluator.defaultEnvironment) keys = .ok ())
    (schedule : List String) (context : Context) :
    (evaluator.evaluateAlong schedule environment? keys context).run =
      .step (.observeBatch (distinctKeys keys).length) fun _ =>
        .step .readClock fun now =>
          (joinAlong schedule
              (evaluator.pending (environment?.getD evaluator.defaultEnvironment)
                (context.pinned now))
              (distinctKeys keys) >>=
            report (environment?.getD evaluator.defaultEnvironment) (context.pinned now)
              now).run := by
  simp only [evaluateAlong, passed]
  rfl

end Switchboard.Evaluator

namespace Switchboard

/-! ## Batches of records -/

/-- The batch of records that an exchange handed to the sink. -/
def Exchange.batch? (exchange : Exchange) : Option (List Exposure) :=
  match exchange.request with
  | .logExposures records => some records
  | _ => none

/-- Requests that hand nothing to the sink. -/
def Request.IsSilent (request : Request) : Prop :=
  ∀ records, request ≠ .logExposures records

/-- Terms under which nothing is handed to the sink, whatever is replied. -/
def silentTerms : Terms where
  asks := Request.IsSilent
  gives _ _ := True

variable {State : Type} {handler other : (request : Request) → State → request.Reply × State}

/-- The batches that an operation hands to the sink when it is run to its end. -/
def Operation.batches
    (handler : (request : Request) → State → request.Reply × State)
    (operation : Operation α)
    (state : State) :
    List (List Exposure) :=
  (operation.run.exchanges handler state).filterMap Exchange.batch?

/-- A silent operation hands nothing to the sink. -/
theorem Operation.batches_of_abides {operation : Operation α} {ends : Except ServiceError α → Prop}
    (abides : operation.Abides silentTerms ends) (state : State) :
    operation.batches handler state = [] := by
  have silently : ∀ exchange ∈ operation.run.exchanges handler state, exchange.request.IsSilent :=
    (abides.exchanges fun _ _ => trivial).2
  refine List.filterMap_eq_nil_iff.mpr fun exchange member => ?_
  have silent := silently exchange member
  obtain ⟨request, reply⟩ := exchange
  cases request with
  | logExposures records => exact absurd rfl (silent records)
  | _ => rfl

/-- A silent operation does not notice another sink. -/
theorem Program.run_of_abides {program : Program α} {ends : α → Prop}
    (abides : program.Abides silentTerms ends)
    (same : ∀ request : Request, request.IsSilent →
      ∀ state, handler request state = other request state)
    (state : State) :
    program.run handler state = program.run other state := by
  induction program generalizing state with
  | done value => rfl
  | step request resume inductionHypothesis =>
      simp only [Program.run, same request abides.1]
      exact inductionHypothesis _ (abides.2 _ trivial) _

namespace Evaluator

variable {evaluator : Evaluator} {environment : String} {environment? : Option String}
variable {keys : List String} {context : Context} {schedule : List String}

private theorem lets_silentTerms : silentTerms.LetsInquire := by
  intro request inquiry records same
  subst same
  exact inquiry

/-- Resolutions hand nothing to the sink. -/
theorem silent_joinAlong (evaluator : Evaluator) (environment : String) (context : Context)
    (now : Instant) (schedule keys : List String) :
    (joinAlong schedule (evaluator.pending environment (context.pinned now)) keys).Abides
      silentTerms (Joins (fun _ _ => True) keys) := by
  have fills {cacheKey value : String} {lifetime : Nat} :
      silentTerms.asks (.call (.cacheSet cacheKey value lifetime)) :=
    fun _ same => by cases same
  refine abides_joinAlong schedule fun key _ => ?_
  have letsFill : silentTerms.LetsFill evaluator.resolver.layer := {
    flags := fun _ _ _ _ => fills
    overrides := fun _ _ _ _ => fills }
  have resolves : Program.Abides silentTerms (FailsOnlyBy fun _ => True)
      (evaluator.pending environment (context.pinned now) key) :=
    Resolver.resolve_failing lets_silentTerms letsFill (.anyhow silentTerms) rfl environment key
      context.tenantId context.userId
  exact resolves.mono fun _ _ => trivial

/-- An answered call hands over one batch with the record of each answer, a failed one none. -/
def InStep
    (environment : String)
    (context : Context)
    (timestamp : Instant)
    (batches : List (List Exposure)) :
    Except ServiceError (List (String × Resolution)) → Prop
  | .ok answers =>
      batches = [answers.map fun answer =>
        recordOf environment context timestamp answer.1 answer.2]
  | .error _ => batches = []

/-- Whatever the sink replies, reporting hands over one batch and gives the answers back. -/
private theorem reports
    (handler : (request : Request) → State → request.Reply × State)
    (environment : String)
    (context : Context)
    (answers : List (String × Resolution))
    (now : Instant)
    (state : State) :
    ((report environment context now answers).perform handler state).1 = .ok answers ∧
      (report environment context now answers).batches handler state =
        [answers.map fun answer =>
          recordOf environment context (context.instantAt now) answer.1 answer.2] := by
  let records := answers.map fun answer =>
    recordOf environment context (context.instantAt now) answer.1 answer.2
  have asks : (report environment context now answers).run =
      .step (.logExposures records) fun logged =>
        .step (.count (match logged with
          | .ok () => ⟨.exposureRecordsSent, []⟩
          | .error _ => ⟨.exposureFailures, []⟩) (match logged with
          | .ok () => records.length
          | .error _ => 1)) fun _ => .done (.ok answers) := by
    refine congrArg (Program.step (.logExposures records)) (funext fun logged => ?_)
    cases logged with
    | ok _ => rfl
    | error _ => rfl
  constructor
  · rw [Operation.perform, asks]
    rfl
  · rw [Operation.batches, asks]
    rfl

/--
A call that is not refused reads the clock, joins the resolutions and ends as they do.  What it
hands to the sink is in step with that.
-/
theorem joins_of_check
    (handler : (request : Request) → State → request.Reply × State)
    (passed : check (environment?.getD evaluator.defaultEnvironment) keys = .ok ())
    (schedule : List String)
    (context : Context)
    (state : State) :
    let environment := environment?.getD evaluator.defaultEnvironment
    let counted := (handler (.observeBatch (distinctKeys keys).length) state).2
    let now : Instant := (handler .readClock counted).1
    let joined :=
      joinAlong schedule (evaluator.pending environment (context.pinned now)) (distinctKeys keys)
    let began := (handler .readClock counted).2
    let call := evaluator.evaluateAlong schedule environment? keys context
    (call.perform handler state).1 = (joined.perform handler began).1 ∧
      InStep environment context (context.instantAt now) (call.batches handler state)
        (call.perform handler state).1 ∧
      ∃ after, call.run.exchanges handler state =
        [⟨.observeBatch (distinctKeys keys).length, ()⟩, ⟨.readClock, now⟩] ++
          joined.run.exchanges handler began ++ after := by
  intro environment counted now joined began call
  let rest := joined >>= report environment (context.pinned now) now
  have runs := run_of_check passed schedule context
  have performs : call.perform handler state = rest.perform handler began :=
    congrArg (Program.run handler · state) runs
  have exchanges : call.run.exchanges handler state =
      ⟨.observeBatch (distinctKeys keys).length, ()⟩ :: ⟨.readClock, now⟩ ::
        rest.run.exchanges handler began :=
    congrArg (Program.exchanges handler · state) runs
  have silent : Operation.batches handler joined began = [] :=
    Operation.batches_of_abides
      (silent_joinAlong evaluator environment context now schedule (distinctKeys keys)) began
  have batches : call.batches handler state = rest.batches handler began := by
    unfold Operation.batches
    rw [exchanges]
    rfl
  rw [batches, performs, exchanges, Operation.perform_bind]
  unfold Operation.batches at silent ⊢
  rw [Operation.exchanges_bind, List.filterMap_append, silent]
  generalize joined.perform handler began = joinedTo
  obtain ⟨outcome, later⟩ := joinedTo
  cases outcome with
  | error error => exact ⟨rfl, rfl, [], rfl⟩
  | ok answers =>
      obtain ⟨same, batch⟩ :=
        reports handler environment (context.pinned now) answers now later
      refine ⟨same, ?_, _, rfl⟩
      rw [same]
      exact batch

end Evaluator

end Switchboard
