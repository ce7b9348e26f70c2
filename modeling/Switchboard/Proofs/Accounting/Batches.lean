import Mathlib.Data.List.Perm.Basic
import Switchboard.Proofs.Accounting.Runs
import Switchboard.Proofs.Batch.Calls

namespace Switchboard

/-!
# Accounts of batches

The keys of a batch take turns in whatever order.  What they leave together is, but for its order,
what each of them leaves by itself.  Where all of them are answered, the counters thus tell of each
as if it had been asked alone; where one fails, the others are given up wherever they are, which
may be between a lookup and the read that it calls for.
-/

variable {fails : ServiceError → Prop}

/-! ## Programs that take turns -/

/-- What one of some different names adds is added to what they have together. -/
private theorem perm_flatMap_added {names : List String} {name : String}
    (distinct : names.Nodup)
    (member : name ∈ names)
    (added : List Exchange)
    (owns : String → List Exchange) :
    (added ++ names.flatMap owns).Perm
      (names.flatMap fun other => (if other = name then added else []) ++ owns other) := by
  have alone : (names.flatMap fun other => if other = name then added else []) = added := by
    obtain ⟨before, after, rfl⟩ := List.append_of_mem member
    obtain ⟨isOther, _⟩ := List.nodup_cons.mp (List.nodup_middle.mp distinct)
    have nothing (others : List String) (among : ∀ other ∈ others, other ∈ before ++ after) :
        (others.flatMap fun other => if other = name then added else []) = [] := by
      refine List.flatMap_eq_nil_iff.mpr fun other isAmong => if_neg ?_
      rintro rfl
      exact isOther (among other isAmong)
    rw [List.flatMap_append, List.flatMap_cons, if_pos rfl,
      nothing before fun other => List.mem_append_left after,
      nothing after fun other => List.mem_append_right before, List.nil_append, List.append_nil]
  have all := List.flatMap_append_perm names (fun other => if other = name then added else []) owns
  rwa [alone] at all

/-- Side by side, programs leave what each of them leaves, and go on as each of them does. -/
theorem Program.leaves_sideBySide {names : List String} {programs : String → Program α}
    {ends : String → List Exchange → α → Prop}
    (distinct : names.Nodup)
    (leave : ∀ name ∈ names, (programs name).Leaves fails (ends name))
    (schedule : List String)
    (scheduled : ∀ name ∈ schedule, name ∈ names) :
    (sideBySide programs schedule).Leaves fails fun made left =>
      ∃ owns : String → List Exchange, made.Perm (names.flatMap owns) ∧
        ∀ name ∈ names, (left name).Leaves fails fun rest => ends name (owns name ++ rest) := by
  induction schedule generalizing programs ends with
  | nil =>
      refine ⟨fun _ => [], ?_, leave⟩
      have nothing : (names.flatMap fun _ => ([] : List Exchange)) = [] := by simp
      rw [nothing]
  | cons next rest inductionHypothesis =>
      rw [List.forall_mem_cons] at scheduled
      unfold sideBySide
      cases waiting : programs next with
      | done value => exact inductionHypothesis leave scheduled.2
      | step request resume =>
          intro reply failing
          have leaves := leave next scheduled.1
          rw [waiting] at leaves
          refine (@inductionHypothesis (Function.update programs next (resume reply))
            (fun name made => ends name
              ((if name = next then request.leaves reply else []) ++ made)) ?_ scheduled.2).mono ?_
          · intro name member
            by_cases here : name = next
            · subst here
              rw [Function.update_self]
              simpa using leaves reply failing
            · rw [Function.update_of_ne here]
              simpa [here] using leave name member
          · rintro made left ⟨owns, shares, goOn⟩
            refine ⟨fun name => (if name = next then request.leaves reply else []) ++ owns name,
              ?_, ?_⟩
            · have added := perm_flatMap_added distinct scheduled.1 (request.leaves reply) owns
              exact (shares.append_left _).trans added
            · intro name member
              refine (goOn name member).mono fun later value ended => ?_
              rwa [List.append_assoc]

namespace Accounting

/-- What answers leave together is, but for its order, what each of them leaves by itself. -/
def Shares (ends : List Exchange → α → Prop) (made : List Exchange)
    (answers : List (String × α)) : Prop :=
  ∃ parts : List (List Exchange), made.Perm parts.flatten ∧
    List.Forall₂ (fun part answer => ends part answer.2) parts answers

/-- One after the other, programs leave what each of them leaves, while none of them fails. -/
private theorem leaves_finish {names : List String}
    {programs : String → Program (Except ServiceError α)}
    {ends : String → List Exchange → α → Prop}
    (leave : ∀ name ∈ names, (programs name).Leaves fails fun made outcome =>
      ∀ value, outcome = .ok value → ends name made value) :
    (finish programs names).Leaves fails fun made outcome =>
      ∀ answers, outcome = .ok answers →
        answers.map Prod.fst = names ∧ ∃ parts : List (List Exchange), made = parts.flatten ∧
          List.Forall₂ (fun part answer => ends answer.1 part answer.2) parts answers := by
  induction names with
  | nil =>
      refine Operation.leaves_pure fun answers same => ?_
      cases same
      exact ⟨rfl, [], rfl, .nil⟩
  | cons first rest inductionHypothesis =>
      rw [List.forall_mem_cons] at leave
      refine Operation.leaves_bind (leave.1.mono fun own outcome ended => ?_)
      cases outcome with
      | error error => exact fun answers same => by cases same
      | ok value =>
          refine Operation.leaves_bind
            ((inductionHypothesis leave.2).mono fun made later joined => ?_)
          cases later with
          | error error => exact fun answers same => by cases same
          | ok answers =>
              obtain ⟨sameNames, parts, rfl, each⟩ := joined answers rfl
              refine Operation.leaves_pure fun all same => ?_
              cases same
              refine ⟨congrArg (first :: ·) sameNames, own :: parts, ?_,
                .cons (ended value rfl) each⟩
              rw [List.append_nil, List.flatten_cons]

/-- What each leaves comes in two parts, of which the first are all left before the second. -/
private theorem shares_append {ends : List Exchange → α → Prop} {owns : String → List Exchange}
    {parts : List (List Exchange)} {answers : List (String × α)}
    (each : List.Forall₂ (fun part answer => ends (owns answer.1 ++ part) answer.2)
      parts answers) :
    Shares ends ((answers.map Prod.fst).flatMap owns ++ parts.flatten) answers := by
  induction each with
  | nil => exact ⟨[], .refl [], .nil⟩
  | @cons part answer laterParts later ended _ inductionHypothesis =>
      obtain ⟨wholes, same, all⟩ := inductionHypothesis
      refine ⟨(owns answer.1 ++ part) :: wholes, ?_, .cons ended all⟩
      rw [List.map_cons, List.flatMap_cons, List.flatten_cons, List.flatten_cons, List.append_assoc,
        List.append_assoc]
      refine List.Perm.append_left (owns answer.1) ?_
      exact (List.perm_append_comm_assoc _ part _).trans (same.append_left part)

/-- Joined in whatever order, programs leave what each of them leaves, if none of them fails. -/
theorem leaves_joinAlong {names : List String}
    {programs : String → Program (Except ServiceError α)}
    {ends : List Exchange → α → Prop}
    (distinct : names.Nodup)
    (leave : ∀ name ∈ names, (programs name).Leaves fails fun made outcome =>
      ∀ value, outcome = .ok value → ends made value)
    (schedule : List String) :
    (joinAlong schedule programs names).Leaves fails fun made outcome =>
      ∀ answers, outcome = .ok answers → Shares ends made answers := by
  have scheduled : ∀ name ∈ schedule.filter (names.contains ·), name ∈ names := by
    simp
  refine Operation.leaves_bind (Operation.leaves_lift
    ((Program.leaves_sideBySide distinct leave _ scheduled).mono ?_))
  rintro made left ⟨owns, shares, goOn⟩
  dsimp only
  cases failed : firstFailure left names with
  | some error => exact Operation.leaves_throw fun answers same => by cases same
  | none =>
      refine (@leaves_finish _ _ names left
        (fun name rest value => ends (owns name ++ rest) value) goOn).mono ?_
      intro rest outcome joined answers same
      obtain ⟨rfl, parts, rfl, each⟩ := joined answers same
      obtain ⟨wholes, alike, all⟩ := shares_append each
      exact ⟨wholes, (shares.append_right parts.flatten).trans alike, all⟩

/-- The order of exchanges does not matter for what they add up to. -/
theorem total_perm {first second : List Exchange} (alike : first.Perm second)
    (weigh : Exchange → Nat) : total weigh first = total weigh second :=
  (alike.map weigh).sum_nat

namespace Shares

variable {made : List Exchange} {answers : List (String × α)}

/-- Weights that each answer tells add up to what the answers tell. -/
theorem total_eq {weigh : Exchange → Nat} {value : α → Nat}
    (shares : Shares (fun part answer => total weigh part = value answer) made answers) :
    total weigh made = (answers.map fun answer => value answer.2).sum := by
  obtain ⟨parts, alike, each⟩ := shares
  rw [total_perm alike weigh]
  clear alike
  induction each with
  | nil => rfl
  | cons ended _ inductionHypothesis =>
      rw [List.flatten_cons, total_append, ended, inductionHypothesis, List.map_cons,
        List.sum_cons]

/-- Accounts that come out even for each answer come out even for all of them. -/
theorem agrees {account : Account}
    (shares : Shares (fun part _ => account.Agrees part 0) made answers) :
    account.Agrees made 0 := by
  obtain ⟨parts, alike, each⟩ := shares
  rw [Account.Agrees, total_perm alike account.left, total_perm alike account.right]
  clear alike
  induction each with
  | nil => rfl
  | cons ended _ inductionHypothesis =>
      exact Account.Agrees.append ended inductionHypothesis

end Shares

/-! ## Resolutions -/

/--
How many entries of a kind are looked up for an answer: the override of the user, if there is one to
look for, then the one of the tenant, and then the flag, up to the tier that decides.
-/
def lookedUp (tenantId userId : Option String) (reason : Reason) : EntryKind → Nat
  | .override =>
      userId.toList.length + if reason = .userOverride then 0 else tenantId.toList.length
  | .flag => if reason = .userOverride ∨ reason = .tenantOverride then 0 else 1

variable {resolver : Resolver} {environment key : String} {tenantId userId : Option String}
  {context : Context}

/-- Who reads an override looks one up, however that ends. -/
private theorem leaves_getOverride (layer : Layer) (scope : Scope) (kind : EntryKind) :
    (layer.getOverride scope).Leaves (fun _ => True) fun made _ =>
      total (lookups kind) made = if EntryKind.override == kind then 1 else 0 := by
  refine Operation.leaves_bind (Operation.leaves_ask fun now _ => ?_)
  refine Layer.leaves_getOverrideAt (fun _ => trivial) ?_ ?_
  · intro found
    exact lookups_lookup kind .override .hit
  · intro outcome reply _ _
    exact lookups_lookup kind .override outcome

/-- Who looks into a tier looks up an override, if there is somebody to look for. -/
private theorem leaves_lookupTier (resolver : Resolver) (scope? : Option Scope)
    (kind : EntryKind) :
    (resolver.lookupTier scope?).Leaves (fun _ => True) fun made _ =>
      total (lookups kind) made =
        if EntryKind.override == kind then scope?.toList.length else 0 := by
  cases scope? with
  | none =>
      refine Operation.leaves_pure ?_
      rw [total_nil]
      split <;> rfl
  | some scope =>
      refine Operation.leaves_bind (Operation.leaves_attempt
        ((leaves_getOverride resolver.layer scope kind).mono ?_))
      intro made outcome looked
      cases outcome with
      | ok found =>
          refine Operation.leaves_pure ?_
          rwa [List.append_nil]
      | error error =>
          dsimp only
          split
          · refine Operation.leaves_pure ?_
            rwa [List.append_nil]
          · refine Operation.leaves_throw ?_
            rwa [List.append_nil]

/-- What the flag itself decides is no override. -/
private theorem reason_resolveFlag (flag? : Option Flag) (context : Context) (clock : Instant) :
    (resolveFlag flag? context clock).reason ≠ .userOverride ∧
      (resolveFlag flag? context clock).reason ≠ .tenantOverride := by
  cases flag? with
  | none => exact ⟨nofun, nofun⟩
  | some flag =>
      unfold resolveFlag Flag.resolve
      dsimp only
      split
      · exact ⟨nofun, nofun⟩
      · exact ⟨nofun, nofun⟩

/-- A decision looks up the overrides of the tiers that it comes to, and then the flag. -/
private theorem leaves_decide (kind : EntryKind) :
    (resolver.decide environment key tenantId userId context).Leaves (fun _ => True)
      fun made outcome => ∀ resolution, outcome = .ok resolution →
        total (lookups kind) made = lookedUp tenantId userId resolution.reason kind := by
  refine Operation.leaves_bind ((leaves_lookupTier resolver _ kind).mono ?_)
  intro ofUser outcome userLooked
  rw [Option.toList_map, List.length_map] at userLooked
  rcases outcome with error | (_ | found)
  · exact fun resolution same => by cases same
  · refine Operation.leaves_bind ((leaves_lookupTier resolver _ kind).mono ?_)
    intro ofTenant outcome tenantLooked
    rw [Option.toList_map, List.length_map] at tenantLooked
    rcases outcome with error | (_ | found)
    · exact fun resolution same => by cases same
    · have flagLooked : (resolver.layer.getFlag environment key).Leaves (fun _ => True)
          fun made _ => total (lookups kind) made = if EntryKind.flag == kind then 1 else 0 :=
        Layer.leaves_getFlag (fun _ => trivial) (fun flag => lookups_lookup kind .flag .hit)
          fun outcome reply _ _ => lookups_lookup kind .flag outcome
      refine Operation.leaves_bind (flagLooked.mono ?_)
      intro ofFlag outcome looked
      cases outcome with
      | error error => exact fun resolution same => by cases same
      | ok flag? =>
          refine Operation.leaves_bind (Operation.leaves_ask fun clock _ =>
            Operation.leaves_pure ?_)
          intro resolution same
          cases same
          obtain ⟨notUser, notTenant⟩ := reason_resolveFlag flag? context clock
          have nothing : Request.readClock.leaves clock = [] := rfl
          rw [nothing, List.append_nil, List.append_nil, total_append, total_append, userLooked,
            tenantLooked, looked]
          cases kind with
          | override => simp [lookedUp, notUser]
          | flag => simp [lookedUp, notUser, notTenant]
    · refine Operation.leaves_pure fun resolution same => ?_
      cases same
      rw [List.append_nil, total_append, userLooked, tenantLooked]
      cases kind with
      | override => simp [lookedUp]
      | flag => simp [lookedUp]
  · refine Operation.leaves_pure fun resolution same => ?_
    cases same
    rw [List.append_nil, userLooked]
    cases kind with
    | override => simp [lookedUp]
    | flag => simp [lookedUp]

/-- A resolution that gives an answer looks up no more than its decision. -/
private theorem leaves_resolve (kind : EntryKind) :
    (resolver.resolve environment key tenantId userId context).Leaves (fun _ => True)
      fun made outcome => ∀ resolution, outcome = .ok resolution →
        total (lookups kind) made = lookedUp tenantId userId resolution.reason kind := by
  refine Operation.leaves_bind ((leaves_decide kind).mono ?_)
  intro made outcome looked
  cases outcome with
  | error error => exact fun resolution same => by cases same
  | ok resolution =>
      refine Operation.leaves_bind (Operation.leaves_count rfl (Operation.leaves_pure ?_))
      intro answer same
      cases same
      have nothing :
          total (lookups kind) [.counted ⟨.evaluations, [resolution.reason.label]⟩] = 0 := by
        rw [total_cons, lookups_of_unowned kind _ rfl]
        rfl
      rw [List.append_nil, total_append, looked resolution rfl, nothing, Nat.add_zero]

/-- What a resolution leaves counted is the answer that it gives. -/
private theorem leaves_evaluated_answer (label : String) :
    (resolver.resolve environment key tenantId userId context).Leaves (fun _ => True)
      fun made outcome => ∀ resolution, outcome = .ok resolution →
        total (gain ⟨.evaluations, [label]⟩) made =
          if resolution.reason.label == label then 1 else 0 := by
  refine (leaves_evaluated label ⟨resolver, environment, key, tenantId, userId, context⟩).mono ?_
  rintro made outcome counted resolution rfl
  exact counted

private theorem sum_labels (label : String) (answers : List (String × Resolution)) :
    (answers.map fun answer => if answer.2.reason.label == label then 1 else 0).sum =
      answers.countP fun answer => answer.2.reason.label == label := by
  induction answers with
  | nil => rfl
  | cons answer rest inductionHypothesis =>
      rw [List.map_cons, List.sum_cons, inductionHypothesis, List.countP_cons, Nat.add_comm]

/-! ## Batches -/

section Batches

variable {evaluator : Evaluator} {environment? : Option String} {keys : List String}

/-- Reporting leaves nothing and gives the answers back. -/
private theorem leaves_report {ends : List Exchange → Except ServiceError _ → Prop}
    (environment : String) (now : Instant) (answers : List (String × Resolution))
    (ended : ends [] (.ok answers)) :
    (Evaluator.report environment context now answers).Leaves fails ends := by
  refine Operation.leaves_bind (Operation.leaves_bind
    (Operation.leaves_ask fun (logged : Except ServiceError Unit) _ => ?_))
  cases logged with
  | ok value => exact Operation.leaves_ask fun _ _ => Operation.leaves_pure ended
  | error error => exact Operation.leaves_ask fun _ _ => Operation.leaves_pure ended

/-- A batch that is answered leaves what each of its answers leaves. -/
theorem leaves_evaluateAlong {ends : List Exchange → Resolution → Prop}
    (each : ∀ environment key now,
      (evaluator.resolver.resolve environment key context.tenantId context.userId
        (context.pinned now)).Leaves fails fun made outcome =>
          ∀ resolution, outcome = .ok resolution → ends made resolution)
    (schedule : List String) :
    (evaluator.evaluateAlong schedule environment? keys context).Leaves fails
      fun made outcome => ∀ answers, outcome = .ok answers → Shares ends made answers := by
  unfold Evaluator.evaluateAlong
  dsimp only
  cases Evaluator.check (environment?.getD evaluator.defaultEnvironment) keys with
  | error cause => exact fun answers same => by cases same
  | ok value =>
      refine Operation.leaves_bind (Operation.leaves_pure ?_)
      refine Operation.leaves_bind (Operation.leaves_ask fun _ _ => ?_)
      refine Operation.leaves_bind (Operation.leaves_ask fun (now : Instant) _ => ?_)
      have distinct : (Evaluator.distinctKeys keys).Nodup :=
        (Evaluator.distinctKeys_sorted keys).imp fun less => ne_of_lt less
      refine Operation.leaves_bind ((leaves_joinAlong distinct
        (fun key _ => each _ key now) schedule).mono ?_)
      intro made outcome joined
      cases outcome with
      | error error => exact fun answers same => by cases same
      | ok answers =>
          refine leaves_report _ _ _ ?_
          intro all same
          cases same
          rw [List.append_nil]
          exact joined answers rfl

variable {State : Type} {handler : (request : Request) → State → request.Reply × State}
  {state : State}

/-- What a batch that is answered adds to a weight that each answer tells. -/
private theorem total_evaluateAlong {weigh : Exchange → Nat} {value : Resolution → Nat}
    (quiet : ∀ exchange : Exchange, exchange.isAccountable = false → weigh exchange = 0)
    (each : ∀ environment key now,
      (evaluator.resolver.resolve environment key context.tenantId context.userId
        (context.pinned now)).Leaves (fun _ => True) fun made outcome =>
          ∀ resolution, outcome = .ok resolution → total weigh made = value resolution)
    (schedule : List String)
    {answers : List (String × Resolution)}
    (answered : ((evaluator.evaluateAlong schedule environment? keys context).perform
      handler state).1 = .ok answers) :
    total weigh ((evaluator.evaluateAlong schedule environment? keys context).run.exchanges
        handler state) =
      (answers.map fun answer => value answer.2).sum := by
  have shares := (leaves_evaluateAlong each schedule).exchanges (fun _ _ _ _ => trivial) answers
    answered
  rw [← total_filter quiet]
  exact shares.total_eq

/-- An account that covers all that deeds are made of comes out even for an answered batch. -/
private theorem total_left_evaluateAlong {account : Account} (covers : account.Covers)
    (schedule : List String)
    {answers : List (String × Resolution)}
    (answered : ((evaluator.evaluateAlong schedule environment? keys context).perform
      handler state).1 = .ok answers)
    (failing : ∀ exchange ∈
      (evaluator.evaluateAlong schedule environment? keys context).run.exchanges handler state,
      exchange.FailsBy account.fails) :
    total account.left ((evaluator.evaluateAlong schedule environment? keys context).run.exchanges
        handler state) =
      total account.right ((evaluator.evaluateAlong schedule environment? keys
        context).run.exchanges handler state) := by
  have each (environment key : String) (now : Instant) :
      (evaluator.resolver.resolve environment key context.tenantId context.userId
        (context.pinned now)).Leaves account.fails fun made outcome =>
          ∀ resolution, outcome = .ok resolution → account.Agrees made 0 := by
    refine (covers.carries.resolve _ _ _ _ _ _).mono ?_
    rintro made outcome agrees resolution rfl
    exact agrees
  have shares := (leaves_evaluateAlong each schedule).exchanges failing answers answered
  have agrees := shares.agrees
  rw [Account.Agrees, total_filter fun exchange quiet => (account.quiet exchange quiet).1,
    total_filter fun exchange quiet => (account.quiet exchange quiet).2] at agrees
  exact agrees

/--
Whatever the backends do, and however the keys of a batch take turns, where all of them are
answered: the lookups of a kind are those that the answers call for, and those that were no hit are
as many as the reads of the store.  The evaluations with a label are as many as the answers that
have it.  And where no backend gives a verdict of its own, none is counted.
-/
theorem metrics_account_for_batches {holds : State → Prop} {amount : State → Counter → Nat}
    (meters : Meters handler holds amount)
    (began : holds state)
    (evaluator : Evaluator)
    (schedule : List String)
    (environment? : Option String)
    (keys : List String)
    (context : Context)
    {answers : List (String × Resolution)}
    (answered : ((evaluator.evaluateAlong schedule environment? keys context).perform
      handler state).1 = .ok answers) :
    let batch := evaluator.evaluateAlong schedule environment? keys context
    let exchanges := batch.run.exchanges handler state
    let later := (batch.perform handler state).2
    (∀ kind,
      amount later (lookupCounter kind .hit) + amount later (lookupCounter kind .miss) +
          amount later (lookupCounter kind .error) =
        amount state (lookupCounter kind .hit) + amount state (lookupCounter kind .miss) +
            amount state (lookupCounter kind .error) +
          (answers.map fun answer =>
            lookedUp context.tenantId context.userId answer.2.reason kind).sum) ∧
    (∀ kind,
      amount later (lookupCounter kind .miss) + amount later (lookupCounter kind .error) =
        amount state (lookupCounter kind .miss) + amount state (lookupCounter kind .error) +
          exchanges.countP (isRead kind)) ∧
    (∀ label,
      amount later ⟨.evaluations, [label]⟩ =
        amount state ⟨.evaluations, [label]⟩ +
          answers.countP fun answer => answer.2.reason.label == label) ∧
    ∀ verdict : Verdict,
      (∀ exchange ∈ exchanges,
        exchange.FailsBy fun error => verdict.isGivenBy error = false) →
      amount later verdict.counter = amount state verdict.counter := by
  intro batch exchanges later
  have gained (counter : Counter) (accountable : counter.family.isAccountable = true) :
      amount later counter = amount state counter + total (gain counter) exchanges :=
    meters.amount_run batch.run began accountable
  refine ⟨fun kind => ?_, fun kind => ?_, fun label => ?_, fun verdict failing => ?_⟩
  · have looked : total (lookups kind) exchanges = _ :=
      total_evaluateAlong (fun _ => lookups_of_not_accountable kind)
        (fun _ _ _ => leaves_resolve kind) schedule answered
    rw [gained _ rfl, gained _ rfl, gained _ rfl, ← looked]
    unfold lookups
    rw [total_add, total_add]
    omega
  · have even : total (storeReads kind).left exchanges = total (storeReads kind).right exchanges :=
      total_left_evaluateAlong (covers_storeReads kind) schedule answered fun _ _ _ _ => trivial
    rw [storeReads, total_add, total_each] at even
    rw [gained _ rfl, gained _ rfl, ← even]
    omega
  · have evaluated : total (gain ⟨.evaluations, [label]⟩) exchanges = _ :=
      total_evaluateAlong (fun _ isQuiet => gain_of_not_accountable rfl isQuiet)
        (fun _ _ _ => leaves_evaluated_answer label) schedule answered
    rw [gained _ rfl, evaluated, sum_labels]
  · have accountable : verdict.counter.family.isAccountable = true := by cases verdict <;> rfl
    have even : total (gain verdict.counter) exchanges = total (fun _ => 0) exchanges :=
      total_left_evaluateAlong (covers_verdicts verdict) schedule answered failing
    rw [gained _ accountable, even, total_zero, Nat.add_zero]

end Batches

end Accounting

end Switchboard
