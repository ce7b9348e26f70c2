import Switchboard.Proofs.Accounting.Calls
import Switchboard.Proofs.Accounting.Meters

namespace Switchboard.Accounting

/-!
# Metrics account for deeds

Deeds are done one after the other, whatever the backends do at each request.  The counters of
their lookups, news, verdicts and evaluations then tell how many reads were called for, how many
of these went to the store, how many writes the store applied, how many deeds failed by a
verdict, and how many resolutions gave an answer of each kind.  The keys of a batch are resolved
in their order here; batches whose keys take turns have accounts of their own.
-/

variable {State : Type} {handler : (request : Request) → State → request.Reply × State}
  {state : State}

/-! ## Calls by themselves -/

/-- What an operation leaves is what its run adds up to. -/
theorem total_of_leaves {operation : Operation α} {weigh : Exchange → Nat}
    {value : Except ServiceError α → Nat}
    (leaves : operation.Leaves (fun _ => True) fun made outcome =>
      total weigh made = value outcome)
    (quiet : ∀ exchange : Exchange, exchange.isAccountable = false → weigh exchange = 0)
    (state : State) :
    total weigh (operation.run.exchanges handler state) =
      value (operation.perform handler state).1 := by
  rw [← total_filter quiet]
  exact Program.Leaves.exchanges leaves fun _ _ _ _ => trivial

/-- The lookups of a kind, however they ended. -/
def lookups (kind : EntryKind) (exchange : Exchange) : Nat :=
  gain (lookupCounter kind .hit) exchange + gain (lookupCounter kind .miss) exchange +
    gain (lookupCounter kind .error) exchange

theorem lookups_lookup (kind other : EntryKind) (outcome : LookupOutcome) :
    lookups kind (.lookup other outcome) = if other == kind then 1 else 0 := by
  cases kind <;> cases other <;> cases outcome <;> rfl

/-- Only reads look up. -/
theorem lookups_of_unowned (kind : EntryKind) (exchange : Exchange)
    (unowned : reads.owns exchange.request = false) : lookups kind exchange = 0 := by
  obtain ⟨request, reply⟩ := exchange
  cases request with
  | count counter amount =>
      have noGain (outcome : LookupOutcome) :
          gain (lookupCounter kind outcome) ⟨.count counter amount, reply⟩ = 0 :=
        if_neg fun same => by
          subst same
          cases unowned
      rw [lookups, noGain, noGain, noGain]
  | _ => rfl

theorem lookups_of_not_accountable (kind : EntryKind) {exchange : Exchange}
    (quiet : exchange.isAccountable = false) : lookups kind exchange = 0 := by
  have noGain (outcome : LookupOutcome) : gain (lookupCounter kind outcome) exchange = 0 :=
    gain_of_not_accountable rfl quiet
  rw [lookups, noGain, noGain, noGain]

/-- A read looks up one entry of its kind. -/
theorem total_lookups_read (kind : EntryKind) (call : ReadCall) (state : State) :
    total (lookups kind) ((reads.operation call).run.exchanges handler state) =
      if call.kind == kind then 1 else 0 := by
  cases call with
  | flag layer environment key =>
      have leaves : (layer.getFlag environment key).Leaves (fun _ => True) fun made _ =>
          total (lookups kind) made = if EntryKind.flag == kind then 1 else 0 :=
        Layer.leaves_getFlag (fun _ => trivial)
          (fun flag => lookups_lookup kind .flag .hit)
          fun outcome reply _ _ => lookups_lookup kind .flag outcome
      exact total_of_leaves leaves (fun _ => lookups_of_not_accountable kind) state
  | override layer scope now =>
      have leaves : (layer.getOverrideAt scope now).Leaves (fun _ => True) fun made _ =>
          total (lookups kind) made = if EntryKind.override == kind then 1 else 0 :=
        Layer.leaves_getOverrideAt (fun _ => trivial)
          (fun found => lookups_lookup kind .override .hit)
          fun outcome reply _ _ => lookups_lookup kind .override outcome
      exact total_of_leaves leaves (fun _ => lookups_of_not_accountable kind) state

/-- Whether a resolution ended with an answer whose reason has a label. -/
def answers (label : String) (outcome : Except ServiceError Resolution) : Bool :=
  match outcome with
  | .ok resolution => resolution.reason.label == label
  | .error _ => false

/-- Only resolutions evaluate. -/
theorem evaluations_of_unowned (label : String) (exchange : Exchange)
    (unowned : resolutions.owns exchange.request = false) :
    gain ⟨.evaluations, [label]⟩ exchange = 0 := by
  obtain ⟨request, reply⟩ := exchange
  cases request with
  | count counter amount =>
      refine if_neg fun same => ?_
      subst same
      cases unowned
  | _ => rfl

/-- A resolution leaves its answer counted, and no other. -/
theorem leaves_evaluated (label : String) (call : ResolveCall) :
    (resolutions.operation call).Leaves (fun _ => True) fun made outcome =>
      total (gain ⟨.evaluations, [label]⟩) made = if answers label outcome then 1 else 0 := by
  have decides := (coversReads_evaluations label).carries.decide call.resolver call.environment
    call.key call.tenantId call.userId call.context
  refine Operation.leaves_bind (decides.mono fun made outcome agrees => ?_)
  have nothing : total (gain ⟨.evaluations, [label]⟩) made = 0 := by
    rw [(evaluations label).dueFor_eq_zero fun _ => rfl] at agrees
    exact agrees.trans (total_zero made)
  cases outcome with
  | error error => exact nothing
  | ok resolution =>
      refine Operation.leaves_bind (Operation.leaves_count rfl (Operation.leaves_pure ?_))
      rw [total_append, nothing]
      simp [answers]

/-- A resolution counts its answer. -/
theorem total_evaluations_resolve (label : String) (call : ResolveCall) (state : State) :
    total (gain ⟨.evaluations, [label]⟩)
        ((resolutions.operation call).run.exchanges handler state) =
      if answers label ((resolutions.operation call).perform handler state).1 then 1 else 0 :=
  total_of_leaves (leaves_evaluated label call)
    (fun _ isQuiet => gain_of_not_accountable rfl isQuiet) state

/-! ## Deeds in a row -/

/-- A deed, and how it ended. -/
structure Done where
  deed : Deed
  outcome : Except ServiceError deed.Answer

/-- Whether a deed failed by a verdict. -/
def Done.isFailedBy (verdict : Verdict) (done : Done) : Bool :=
  match done.outcome with
  | .ok _ => false
  | .error error => verdict.isGivenBy error

/-- Do one deed after the other, however each of them ends. -/
def performAll : List Deed → Operation (List Done)
  | [] => return []
  | deed :: rest => do
      let outcome ← deed.operation.attempt
      let later ← performAll rest
      return ⟨deed, outcome⟩ :: later

/-- Deeds in a row are cut as each of them is. -/
theorem cuts_performAll {interface : Interface}
    (carries : Carries fun operation => Interface.Cuts interface handler operation)
    (deeds : List Deed) : Interface.Cuts interface handler (performAll deeds) := by
  induction deeds with
  | nil => exact Interface.cuts_pure []
  | cons deed rest inductionHypothesis =>
      exact Interface.cuts_bind (Interface.cuts_attempt (carries.deed deed)) fun _ =>
        Interface.cuts_bind inductionHypothesis fun _ => Interface.cuts_pure _

/-- An account of deeds in a row is out by what is due for each of them. -/
theorem leaves_performAll {account : Account} (covers : account.Covers) (deeds : List Deed) :
    (performAll deeds).Leaves account.fails fun made outcome =>
      ∃ done, outcome = .ok done ∧ done.map Done.deed = deeds ∧
        account.Agrees made (done.map fun done => account.dueFor done.outcome).sum := by
  induction deeds with
  | nil => exact Operation.leaves_pure ⟨[], rfl, rfl, Account.agrees_nil⟩
  | cons deed rest inductionHypothesis =>
      refine Operation.leaves_bind (Operation.leaves_attempt
        ((covers.carries.deed deed).mono fun made outcome agrees => ?_))
      refine Operation.leaves_bind (inductionHypothesis.mono fun more later ended => ?_)
      obtain ⟨done, rfl, same, further⟩ := ended
      refine Operation.leaves_pure ⟨⟨deed, outcome⟩ :: done, rfl, congrArg (deed :: ·) same, ?_⟩
      unfold Account.Agrees at agrees further ⊢
      rw [List.append_nil, total_append, total_append, agrees, further, List.map_cons,
        List.sum_cons]
      dsimp only
      omega

/-- The sides of an account after deeds in a row, where backends fail as it has them fail. -/
theorem total_performAll {account : Account} (covers : account.Covers) (deeds : List Deed)
    (failing : ∀ exchange ∈ (performAll deeds).run.exchanges handler state,
      exchange.FailsBy account.fails) :
    ∃ done, ((performAll deeds).perform handler state).1 = .ok done ∧
      done.map Done.deed = deeds ∧
      total account.left ((performAll deeds).run.exchanges handler state) =
        total account.right ((performAll deeds).run.exchanges handler state) +
          (done.map fun done => account.dueFor done.outcome).sum := by
  obtain ⟨done, ended, same, agrees⟩ := (leaves_performAll covers deeds).exchanges failing
  unfold Account.Agrees at agrees
  rw [total_filter fun exchange quiet => (account.quiet exchange quiet).1,
    total_filter fun exchange quiet => (account.quiet exchange quiet).2] at agrees
  exact ⟨done, ended, same, agrees⟩

/-- An account under which nothing is ever due comes out even. -/
theorem total_eq_of_never_due {account : Account} (covers : account.Covers)
    (anything : ∀ error, account.fails error) (never : ∀ error, account.due error = 0)
    (deeds : List Deed) :
    total account.left ((performAll deeds).run.exchanges handler state) =
      total account.right ((performAll deeds).run.exchanges handler state) := by
  obtain ⟨done, -, -, agrees⟩ := @total_performAll _ handler state _ covers deeds
    fun _ _ error _ => anything error
  have nothing : (done.map fun done => account.dueFor done.outcome).sum = 0 :=
    List.sum_eq_zero_iff_forall_eq_nat.mpr fun due member => by
      obtain ⟨one, _, rfl⟩ := List.mem_map.mp member
      exact account.dueFor_eq_zero never one.outcome
  rw [agrees, nothing, Nat.add_zero]

/-- What is due for verdicts is one for each deed that failed by one. -/
theorem sum_dueFor_verdicts (verdict : Verdict) (done : List Done) :
    (done.map fun done => (verdicts verdict).dueFor done.outcome).sum =
      done.countP (Done.isFailedBy verdict) := by
  induction done with
  | nil => rfl
  | cons first rest inductionHypothesis =>
      rw [List.map_cons, List.sum_cons, inductionHypothesis, List.countP_cons, Nat.add_comm]
      obtain ⟨deed, outcome⟩ := first
      cases outcome <;> rfl

/-! ## Metrics -/

/--
Whatever the backends do: the lookups of a kind are as many as the reads of that kind that were
called for, and those that were no hit as many as the reads of the store.  The news that were
told or lost are as many as the writes that the store applied.  The evaluations with a label are
as many as the resolutions that gave such an answer.  And where no backend gives a verdict of
its own, a verdict is counted for each deed that failed by it.
-/
theorem metrics_account_for_deeds {holds : State → Prop} {amount : State → Counter → Nat}
    (meters : Meters handler holds amount)
    (began : holds state)
    (fresh : ∀ counter, amount state counter = 0)
    (deeds : List Deed) :
    let exchanges := (performAll deeds).run.exchanges handler state
    let later := ((performAll deeds).perform handler state).2
    ∃ done, ((performAll deeds).perform handler state).1 = .ok done ∧
      done.map Done.deed = deeds ∧
      ((∃ made, Interface.Cut reads handler state exchanges made later) ∧
        ∀ made, Interface.Cut reads handler state exchanges made later → ∀ kind,
          amount later (lookupCounter kind .hit) + amount later (lookupCounter kind .miss) +
              amount later (lookupCounter kind .error) =
            made.countP fun read => read.call.kind == kind) ∧
      (∀ kind,
        amount later (lookupCounter kind .miss) + amount later (lookupCounter kind .error) =
          exchanges.countP (isRead kind)) ∧
      amount later ⟨.invalidationsPublished, ["flag.updated"]⟩ +
            amount later ⟨.invalidationsPublished, ["override.changed"]⟩ +
          amount later ⟨.invalidationFailures, []⟩ =
        exchanges.countP isApplied ∧
      ((∃ made, Interface.Cut resolutions handler state exchanges made later) ∧
        ∀ made, Interface.Cut resolutions handler state exchanges made later → ∀ label,
          amount later ⟨.evaluations, [label]⟩ =
            made.countP fun resolved => answers label resolved.outcome) ∧
      ∀ verdict : Verdict,
        (∀ exchange ∈ exchanges,
          exchange.FailsBy fun error => verdict.isGivenBy error = false) →
        amount later verdict.counter = done.countP (Done.isFailedBy verdict) := by
  intro exchanges later
  have gained (counter : Counter) (accountable : counter.family.isAccountable = true) :
      amount later counter = total (gain counter) exchanges := by
    have ran := meters.amount_run (performAll deeds).run began accountable
    rwa [fresh, Nat.zero_add] at ran
  obtain ⟨done, ended, same, -⟩ := @total_performAll _ handler state _ covers_announcements deeds
    fun _ _ _ _ => trivial
  refine ⟨done, ended, same, ⟨cuts_performAll (carries_reads handler) deeds state, ?_⟩, ?_, ?_,
    ⟨cuts_performAll (carries_resolutions handler) deeds state, ?_⟩, ?_⟩
  · intro made cut kind
    rw [gained _ rfl, gained _ rfl, gained _ rfl, ← total_add, ← total_add]
    exact cut.total_eq_countP (lookups_of_unowned kind) (total_lookups_read kind)
  · intro kind
    rw [gained _ rfl, gained _ rfl, ← total_add, ← total_each]
    exact total_eq_of_never_due (covers_storeReads kind) (fun _ => trivial) (fun _ => rfl) deeds
  · rw [gained _ rfl, gained _ rfl, gained _ rfl, ← total_add, ← total_add, ← total_each]
    exact total_eq_of_never_due covers_announcements (fun _ => trivial) (fun _ => rfl) deeds
  · intro made cut label
    rw [gained _ rfl]
    exact cut.total_eq_countP (evaluations_of_unowned label) (total_evaluations_resolve label)
  · intro verdict failing
    obtain ⟨others, endedSo, -, agrees⟩ :=
      @total_performAll _ handler state _ (covers_verdicts verdict) deeds failing
    rw [ended, Except.ok.injEq] at endedSo
    subst endedSo
    have accountable : verdict.counter.family.isAccountable = true := by cases verdict <;> rfl
    have noRight : total (verdicts verdict).right exchanges = 0 := total_zero exchanges
    rw [gained _ accountable, ← sum_dueFor_verdicts]
    exact agrees.trans (by rw [noRight, Nat.zero_add])

namespace Books

/-- The layer that is asked. -/
def layer : Layer :=
  {}

/-- The resolver over it, for which a tier that cannot be read is a failure. -/
def resolver : Resolver :=
  ⟨layer, .propagate⟩

/-- The service over both, with one guarded key. -/
def service : Service where
  evaluator := { resolver, defaultEnvironment := "prod" }
  guard := ⟨["billing.kill"]⟩

/-- What is written to the flag. -/
def write : FlagWrite where
  environment := "prod"
  key := "beta.search"
  enabledDefault := true
  rules := []
  lastEditorId := none

/-- The scope of the override. -/
def home : Scope :=
  Scope.tenant "prod" "beta.search" "t1"

/--
An override is set and read twice, and its flag is written, then written again by one who has
not heard of it.  A tenant tries to switch a guarded flag, and at last the flag is resolved.
-/
def deeds : List Deed := [
  .work layer (.upsertOverride home true none),
  .work layer (.getOverride home),
  .work layer (.getOverride home),
  .work layer (.writeFlag write none),
  .work layer (.writeFlag write (some 7)),
  .serve service (.setOverride (Scope.tenant "prod" "billing.kill" "t1") true none false),
  .resolve resolver "prod" "beta.search" (some "t1") none {}]

/-- The bus is out of reach, and in the end the cache is too. -/
def weather (count : Nat) : Backends where
  cache := if count < 20 then .working else .failing
  bus := .failing

/-- A site with one empty instance. -/
def start : World × Nat :=
  (World.addInstance { calendar := Instant.mayDay } {}, 0)

/-- What is exchanged for the deeds. -/
def exchanges : List Exchange :=
  (performAll deeds).run.exchanges (World.handleIn weather 0) start

/-- What the deeds leave behind. -/
def final : World × Nat :=
  ((performAll deeds).perform (World.handleIn weather 0) start).2

theorem perform_eq_final :
    ((performAll deeds).perform (World.handleIn weather 0) start).2 = final :=
  rfl

/-- What the deeds are found to have counted. -/
theorem tallied :
    [lookupCounter .override .hit, lookupCounter .override .miss, lookupCounter .override .error,
      ⟨.invalidationsPublished, ["flag.updated"]⟩,
      ⟨.invalidationsPublished, ["override.changed"]⟩, ⟨.invalidationFailures, []⟩,
      ⟨.evaluations, ["tenant_override"]⟩, Verdict.conflict.counter,
      Verdict.refusal.counter].map (World.tally 0 final) = [1, 1, 1, 0, 0, 2, 1, 1, 1] := by
  decide +kernel

end Books

open Books in
/--
Of three lookups one is a hit, so that the store is read twice.  Two writes are applied and
cannot be told of, and of the deeds that fail one is a conflict and one a refusal.
-/
theorem metrics_account_for_deeds_stormy :
    exchanges.countP (isRead .override) = 2 ∧
      exchanges.countP isApplied = 2 ∧
      ∃ done, ((performAll deeds).perform (World.handleIn weather 0) start).1 = .ok done ∧
        done.map Done.deed = deeds ∧
        done.countP (Done.isFailedBy .conflict) = 1 ∧
        done.countP (Done.isFailedBy .refusal) = 1 ∧
        (∃ made, Interface.Cut reads (World.handleIn weather 0) start exchanges made final ∧
          made.countP (fun read => read.call.kind == .override) = 3) ∧
        ∃ made, Interface.Cut resolutions (World.handleIn weather 0) start exchanges made final ∧
          made.countP (fun resolved => answers "tenant_override" resolved.outcome) = 1 := by
  obtain ⟨done, ended, same, ⟨⟨reads, cut⟩, lookedUp⟩, missed, told,
    ⟨⟨resolutions, cutSo⟩, evaluated⟩, judged⟩ :=
    @metrics_account_for_deeds _ _ start _ _ (World.meters_handleIn weather 0) (by decide)
      (fun counter => rfl) deeds
  have counted := tallied
  simp only [List.map_cons, List.map_nil, List.cons.injEq, and_true] at counted
  obtain ⟨hits, misses, errors, flagNews, overrideNews, lost, evaluations, conflicts, refusals⟩ :=
    counted
  have readsOfStore := missed .override
  have lookups := lookedUp reads cut .override
  have conflicting := judged .conflict fun _ => World.failsBy_of_mem_exchanges .conflict
  have refused := judged .refusal fun _ => World.failsBy_of_mem_exchanges .refusal
  have resolved := evaluated resolutions cutSo "tenant_override"
  rw [perform_eq_final] at readsOfStore told lookups conflicting refused resolved
  rw [misses, errors] at readsOfStore
  rw [flagNews, overrideNews, lost] at told
  rw [hits, misses, errors] at lookups
  rw [conflicts] at conflicting
  rw [refusals] at refused
  rw [evaluations] at resolved
  exact ⟨readsOfStore.symm, told.symm, done, ended, same, conflicting.symm, refused.symm,
    ⟨reads, cut, lookups.symm⟩, resolutions, cutSo, resolved.symm⟩

end Switchboard.Accounting
