import Switchboard.Proofs.Accounting.Accounts

namespace Switchboard.Accounting

/-!
# Calls within a run

An operation calls others, and each of them runs to its end before the next request.  A run is
cut into the runs of the operations that it calls and the single exchanges between them.  Where
some requests are made within such calls only, what these add up to is what the calls add, each
by itself.
-/

/-- A request that nobody makes but who reads or evaluates. -/
def isReading : Request → Bool
  | .call (.readFlag ..) => true
  | .call (.findOverride ..) => true
  | .count counter _ => counter.family == .cacheLookups || counter.family == .evaluations
  | _ => false

theorem isAccountable_of_isReading {request : Request} (reading : isReading request = true) :
    request.isAccountable = true := by
  unfold isReading at reading
  split at reading
  · rfl
  · rfl
  · next counter _ =>
      rw [Bool.or_eq_true, beq_iff_eq, beq_iff_eq] at reading
      rcases reading with lookups | evaluations
      · simp only [Request.isAccountable, lookups, CounterFamily.isAccountable]
      · simp only [Request.isAccountable, evaluations, CounterFamily.isAccountable]
  · cases reading

/-- Operations that others call, and the requests that are theirs alone. -/
structure Interface where
  Call : Type
  Answer : Call → Type
  operation : (call : Call) → Operation (Answer call)
  owns : Request → Bool
  reading : ∀ request, owns request = true → isReading request = true

namespace Interface

/-- A call, and how it ended. -/
structure Made (interface : Interface) where
  call : interface.Call
  outcome : Except ServiceError (interface.Answer call)

variable {State : Type} {interface : Interface}
  {handler : (request : Request) → State → request.Reply × State}

/-- The exchanges from a state on, cut into calls in their order and exchanges between them. -/
inductive Cut (interface : Interface)
    (handler : (request : Request) → State → request.Reply × State) :
    State → List Exchange → List interface.Made → State → Prop where
  | done (state : State) : Cut interface handler state [] [] state
  | between {state later : State} {rest : List Exchange} {made : List interface.Made}
      (request : Request) (unowned : interface.owns request = false) :
      Cut interface handler (handler request state).2 rest made later →
        Cut interface handler state (⟨request, (handler request state).1⟩ :: rest) made later
  | call {state later : State} {rest : List Exchange} {made : List interface.Made}
      (call : interface.Call) :
      Cut interface handler ((interface.operation call).perform handler state).2 rest made later →
        Cut interface handler state
          ((interface.operation call).run.exchanges handler state ++ rest)
          (⟨call, ((interface.operation call).perform handler state).1⟩ :: made) later

namespace Cut

variable {state middle later : State} {first second exchanges : List Exchange}
  {made more : List interface.Made}

theorem append (cut : Cut interface handler state first made middle)
    (goesOn : Cut interface handler middle second more later) :
    Cut interface handler state (first ++ second) (made ++ more) later := by
  induction cut with
  | done state => exact goesOn
  | between request unowned _ inductionHypothesis =>
      exact .between request unowned (inductionHypothesis goesOn)
  | call called _ inductionHypothesis =>
      rw [List.append_assoc]
      exact .call called (inductionHypothesis goesOn)

/-- A program that owns nothing of what it asks makes no call. -/
theorem of_unowned {program : Program α} {state : State}
    (unowned : ∀ exchange ∈ program.exchanges handler state,
      interface.owns exchange.request = false) :
    Cut interface handler state (program.exchanges handler state) []
      (program.run handler state).2 := by
  induction program generalizing state with
  | done value => exact .done state
  | step request resume inductionHypothesis =>
      obtain ⟨first, rest⟩ := List.forall_mem_cons.mp unowned
      exact .between request first (inductionHypothesis _ rest)

/--
Where exchanges between calls add nothing, and a call one if it is such, the exchanges add up to
the number of such calls.
-/
theorem total_eq_countP {weigh : Exchange → Nat} {isSuch : interface.Made → Bool}
    (cut : Cut interface handler state exchanges made later)
    (between : ∀ exchange : Exchange, interface.owns exchange.request = false →
      weigh exchange = 0)
    (each : ∀ (call : interface.Call) (state : State),
      total weigh ((interface.operation call).run.exchanges handler state) =
        if isSuch ⟨call, ((interface.operation call).perform handler state).1⟩ then 1 else 0) :
    total weigh exchanges = made.countP isSuch := by
  induction cut with
  | done state => rfl
  | between request unowned _ inductionHypothesis =>
      rw [total_cons, between _ unowned, Nat.zero_add, inductionHypothesis]
  | call called _ inductionHypothesis =>
      rw [total_append, each, inductionHypothesis, List.countP_cons, Nat.add_comm]

end Cut

/-- Every run of an operation is cut into calls. -/
def Cuts (interface : Interface)
    (handler : (request : Request) → State → request.Reply × State)
    (operation : Operation α) : Prop :=
  ∀ state, ∃ made, Cut interface handler state (operation.run.exchanges handler state) made
    (operation.perform handler state).2

theorem cuts_call (call : interface.Call) :
    Cuts interface handler (interface.operation call) := by
  intro state
  have cut := @Cut.call State interface handler state _ [] [] call (.done _)
  rw [List.append_nil] at cut
  exact ⟨_, cut⟩

/-- An operation that leaves nothing owned makes no call. -/
theorem cuts_of_leaves {operation : Operation α}
    (leaves : operation.Leaves (fun _ => True) fun left _ =>
      ∀ exchange ∈ left, interface.owns exchange.request = false) :
    Cuts interface handler operation := by
  intro state
  refine ⟨[], Cut.of_unowned fun exchange member => ?_⟩
  have unowned : ∀ exchange ∈
      (operation.run.exchanges handler state).filter Exchange.isAccountable,
      interface.owns exchange.request = false :=
    Program.Leaves.exchanges leaves fun _ _ _ _ => trivial
  by_cases accountable : exchange.isAccountable = true
  · exact unowned exchange (List.mem_filter.mpr ⟨member, accountable⟩)
  · by_contra owned
    exact accountable
      (isAccountable_of_isReading (interface.reading _ (Bool.of_not_eq_false owned)))

theorem cuts_ask {request : Request} (unowned : interface.owns request = false) :
    Cuts interface handler (Operation.ask request) :=
  fun _ => ⟨[], .between request unowned (.done _)⟩

theorem cuts_bind {first : Operation α} {next : α → Operation β}
    (cuts : Cuts interface handler first) (goesOn : ∀ value, Cuts interface handler (next value)) :
    Cuts interface handler (first >>= next) := by
  intro state
  obtain ⟨made, cut⟩ := cuts state
  rw [Operation.exchanges_bind, Operation.perform_bind]
  rcases ended : first.perform handler state with ⟨outcome, later⟩
  rw [ended] at cut
  cases outcome with
  | ok value =>
      obtain ⟨more, further⟩ := goesOn value later
      exact ⟨made ++ more, cut.append further⟩
  | error error => exact ⟨made ++ [], cut.append (.done later)⟩

theorem cuts_attempt {operation : Operation α} (cuts : Cuts interface handler operation) :
    Cuts interface handler operation.attempt := by
  intro state
  have lifted := Operation.exchanges_lift handler operation.run state
  have ended := Operation.perform_attempt handler operation state
  obtain ⟨made, cut⟩ := cuts state
  refine ⟨made, ?_⟩
  rw [Operation.attempt] at ended ⊢
  rw [lifted, ended]
  exact cut

theorem cuts_pure (value : α) : Cuts interface handler (pure value) :=
  fun state => ⟨[], .done state⟩

theorem cuts_throw (error : ServiceError) :
    Cuts interface handler (throw error : Operation α) :=
  fun state => ⟨[], .done state⟩

section Layers

variable {layer : Layer}

/-- What is not part of a reading is not owned. -/
theorem unowned_of_not_isReading {request : Request} (notReading : isReading request = false) :
    interface.owns request = false := by
  by_contra owned
  rw [interface.reading request (Bool.of_not_eq_false owned)] at notReading
  cases notReading

/-- News are told by those who write. -/
theorem unowned_of_isNews {news : Exchange} (isNews : news.IsNews) :
    interface.owns news.request = false := by
  cases isNews with
  | published event => exact unowned_of_not_isReading rfl
  | lost => exact unowned_of_not_isReading rfl

theorem cuts_writeFlag (write : FlagWrite) (expected : Option Int64) :
    Cuts interface handler (layer.writeFlag write expected) := by
  have written : interface.owns (.call (.applyFlagWrite write expected)) = false :=
    unowned_of_not_isReading rfl
  refine cuts_of_leaves (Layer.leaves_writeFlag (fun _ => trivial) ?_ ?_ ?_ ?_)
  · intro reply error unwritten failing
    simp [written]
  · intro flag news outcome isNews failing
    simp [written, unowned_of_isNews isNews]
  · intro error failing
    simp [written]
  · intro environment key version actual
    have conflict : interface.owns (Exchange.counted ⟨.versionConflicts, []⟩).request = false :=
      unowned_of_not_isReading rfl
    simp [written, conflict]

theorem cuts_upsertOverride (scope : Scope) (value : Bool) (expiresAt : Option Instant) :
    Cuts interface handler (layer.upsertOverride scope value expiresAt) := by
  have written : interface.owns (.call (.upsertOverride scope value expiresAt)) = false :=
    unowned_of_not_isReading rfl
  refine cuts_of_leaves (Layer.leaves_upsertOverride (fun _ => trivial) ?_ ?_)
  · intro reply error unwritten failing
    simp [written]
  · intro stored news outcome isNews failing
    simp [written, unowned_of_isNews isNews]

theorem cuts_clearOverride (scope : Scope) :
    Cuts interface handler (layer.clearOverride scope) := by
  have written : interface.owns (.call (.clearOverride scope)) = false :=
    unowned_of_not_isReading rfl
  refine cuts_of_leaves (Layer.leaves_clearOverride (fun _ => trivial) ?_ ?_)
  · intro reply error unwritten failing
    simp [written]
  · intro news outcome isNews failing
    simp [written, unowned_of_isNews isNews]

/-- Where reads of a layer are cut, so is what reads in a row. -/
theorem carriesReads_cuts
    (flags : ∀ (layer : Layer) (environment key : String),
      Cuts interface handler (layer.getFlag environment key))
    (overrides : ∀ (layer : Layer) (scope : Scope) (now : Instant),
      Cuts interface handler (layer.getOverrideAt scope now)) :
    CarriesReads fun operation => Cuts interface handler operation where
  returns := cuts_pure
  follows := cuts_bind
  rescues {_ _ excuses} _ cuts := by
    refine cuts_bind (cuts_attempt cuts) fun outcome => ?_
    cases outcome with
    | ok found => exact cuts_pure found
    | error error =>
        dsimp only
        split
        · exact cuts_pure none
        · exact cuts_throw error
  asks request quiet := cuts_ask (by
    refine unowned_of_not_isReading (Bool.eq_false_iff.mpr fun reading => ?_)
    rw [isAccountable_of_isReading reading] at quiet
    cases quiet)
  getFlag := flags
  getOverrideAt := overrides

/-- Where reads and evaluations are cut, so are all deeds. -/
theorem carries_cuts
    (reads : CarriesReads fun operation => Cuts interface handler operation)
    (resolves : ∀ (resolver : Resolver) (environment key : String)
      (tenantId userId : Option String) (context : Context),
      Cuts interface handler (resolver.resolve environment key tenantId userId context)) :
    Carries fun operation => Cuts interface handler operation where
  toCarriesReads := reads
  refuses cause := cuts_throw (.validation cause)
  forbids key := cuts_bind (cuts_ask (unowned_of_not_isReading rfl)) fun _ =>
    cuts_throw (.forbidden key)
  writeFlag _ := cuts_writeFlag
  upsertOverride _ := cuts_upsertOverride
  clearOverride _ := cuts_clearOverride
  sweep _ _ := cuts_of_leaves (Layer.leaves_sweep fun _ _ exchange member => by cases member)
  resolves resolver environment key tenantId userId context _ :=
    resolves resolver environment key tenantId userId context

end Layers

end Interface

/-! ## Reads -/

/-- What a layer is asked to read. -/
inductive ReadCall where
  | flag (layer : Layer) (environment key : String)
  | override (layer : Layer) (scope : Scope) (now : Instant)

namespace ReadCall

/-- The kind of entry that is read. -/
def kind : ReadCall → EntryKind
  | flag .. => .flag
  | override .. => .override

/-- What a read gives when it succeeds. -/
@[reducible] def Answer : ReadCall → Type
  | flag .. => Option Flag
  | override .. => Option OverrideValue

/-- The operation that reads. -/
def operation : (call : ReadCall) → Operation call.Answer
  | flag layer environment key => layer.getFlag environment key
  | override layer scope now => layer.getOverrideAt scope now

end ReadCall

/-- Reads of a layer, which alone ask the store and count their lookups. -/
def reads : Interface where
  Call := ReadCall
  Answer := ReadCall.Answer
  operation := ReadCall.operation
  owns request :=
    match request with
    | .count counter _ => counter.family == .cacheLookups
    | request => isReading request
  reading request owned := by
    cases request with
    | count counter amount =>
        simp only [isReading, Bool.or_eq_true]
        exact .inl owned
    | _ => exact owned

variable {State : Type} {handler : (request : Request) → State → request.Reply × State}

theorem carries_reads (handler : (request : Request) → State → request.Reply × State) :
    Carries fun operation => Interface.Cuts reads handler operation := by
  have carriesReads : CarriesReads fun operation => Interface.Cuts reads handler operation :=
    Interface.carriesReads_cuts
      (fun layer environment key =>
        @Interface.cuts_call State reads handler (ReadCall.flag layer environment key))
      fun layer scope now =>
        @Interface.cuts_call State reads handler (ReadCall.override layer scope now)
  refine Interface.carries_cuts carriesReads
    fun resolver environment key tenantId userId context => ?_
  refine carriesReads.follows (carriesReads.decide resolver environment key tenantId userId context)
    fun resolution => ?_
  exact carriesReads.follows (Interface.cuts_ask rfl) fun _ => carriesReads.returns resolution

/-! ## Resolutions -/

/-- What a resolver is asked. -/
structure ResolveCall where
  resolver : Resolver
  environment : String
  key : String
  tenantId : Option String
  userId : Option String
  context : Context

/-- Resolutions, which alone count evaluations. -/
def resolutions : Interface where
  Call := ResolveCall
  Answer _ := Resolution
  operation call :=
    call.resolver.resolve call.environment call.key call.tenantId call.userId call.context
  owns request :=
    match request with
    | .count counter _ => counter.family == .evaluations
    | _ => false
  reading request owned := by
    cases request with
    | count counter amount =>
        simp only [isReading, Bool.or_eq_true]
        exact .inr owned
    | _ => cases owned

theorem carries_resolutions (handler : (request : Request) → State → request.Reply × State) :
    Carries fun operation => Interface.Cuts resolutions handler operation := by
  refine Interface.carries_cuts (Interface.carriesReads_cuts ?_ ?_)
    fun resolver environment key tenantId userId context =>
      @Interface.cuts_call State resolutions handler
        ⟨resolver, environment, key, tenantId, userId, context⟩
  · intro layer environment key
    refine Interface.cuts_of_leaves (Layer.leaves_getFlag (fun _ => trivial) ?_ ?_)
    · intro flag
      simp [resolutions, Exchange.lookup, Exchange.counted]
    · intro outcome reply noHit failing
      simp [resolutions, Exchange.lookup, Exchange.counted]
  · intro layer scope now
    refine Interface.cuts_of_leaves (Layer.leaves_getOverrideAt (fun _ => trivial) ?_ ?_)
    · intro found
      simp [resolutions, Exchange.lookup, Exchange.counted]
    · intro outcome reply noHit failing
      simp [resolutions, Exchange.lookup, Exchange.counted]

end Switchboard.Accounting
