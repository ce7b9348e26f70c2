import Switchboard.Proofs.Batch.Calls
import Switchboard.Proofs.Store.Shown

namespace Switchboard

/-!
# The instants of a batch

A call pins one instant for the rules of all its keys and for its records.  Overrides do not
keep to it: each look at one reads the clock anew, and the instant that a context brings along
does not matter to it.  A key is answered as that one instant demands exactly where no look
that decides would have been judged otherwise then.
-/

/-- A look at an override: what was consulted, and the instant at which it was judged. -/
structure Look where
  consulted : Option OverrideValue
  judgedAt : Instant

/-- What is in force at an instant of what was consulted. -/
def Look.shownAt (look : Look) (instant : Instant) : Option OverrideValue :=
  look.consulted.filter (OverrideValue.isActive · instant)

/-- The looks of which the reads of the tiers consist. -/
structure TierLooks where
  user : Option (Except ServiceError Look)
  tenant : Option (Except ServiceError Look)
  flag : Except ServiceError (Option Flag)

namespace TierLooks

/-- The read of a tier whose look is judged at some instant. -/
def judged (instantOf : Look → Instant) (tier : Option (Except ServiceError Look)) :
    Option OverrideRead :=
  tier.map fun read => read.map fun look => look.shownAt (instantOf look)

/-- The reads of the tiers, each look judged when it was. -/
def reads (looks : TierLooks) : TierReads where
  user := judged Look.judgedAt looks.user
  tenant := judged Look.judgedAt looks.tenant
  flag := looks.flag

/-- What the reads of the tiers would be, had all looks been judged at one instant. -/
def readsAt (looks : TierLooks) (instant : Instant) : TierReads where
  user := judged (fun _ => instant) looks.user
  tenant := judged (fun _ => instant) looks.tenant
  flag := looks.flag

/-- A look would not have been judged otherwise at an instant. -/
def IsAlikeAt (instant : Instant) (tier : Option (Except ServiceError Look)) : Prop :=
  ∀ look, tier = some (.ok look) → look.shownAt look.judgedAt = look.shownAt instant

end TierLooks

section Outcomes

variable {policy : FailurePolicy} {context : Context} {now instant : Instant}
variable {reads others : TierReads} {looks : TierLooks} {found : OverrideValue}

/-- Only an override of the user decides for that reason. -/
private theorem user_of_decided {outcome : Except ServiceError Resolution} {value : Bool}
    (decided : Decided policy context now reads outcome)
    (isUser : outcome = .ok ⟨value, .userOverride⟩) :
    ∃ found, reads.user = some (.ok (some found)) := by
  cases decided with
  | user read => exact ⟨_, read⟩
  | _ => cases isUser

private theorem tenant_of_decided {outcome : Except ServiceError Resolution} {value : Bool}
    (decided : Decided policy context now reads outcome)
    (isTenant : outcome = .ok ⟨value, .tenantOverride⟩) :
    ∃ found, reads.tenant = some (.ok (some found)) := by
  cases decided with
  | tenant _ read => exact ⟨_, read⟩
  | _ => cases isTenant

/-- Where an override of the user decides, the outcome is not that of a tier that passes. -/
private theorem user_not_none
    (same : reads.outcome policy context now = others.outcome policy context now)
    (decides : reads.user = some (.ok (some found))) :
    others.user ≠ some (.ok none) := by
  intro passes
  rw [(Decided.user decides).eq_outcome] at same
  obtain ⟨other, read⟩ :=
    user_of_decided (Decided.decided_outcome policy context now others) same.symm
  rw [passes] at read
  cases read

private theorem tenant_not_none
    (same : reads.outcome policy context now = others.outcome policy context now)
    (userPasses : policy.Passes reads.user)
    (decides : reads.tenant = some (.ok (some found))) :
    others.tenant ≠ some (.ok none) := by
  intro passes
  rw [(Decided.tenant userPasses decides).eq_outcome] at same
  obtain ⟨other, read⟩ :=
    tenant_of_decided (Decided.decided_outcome policy context now others) same.symm
  rw [passes] at read
  cases read

/-- Of two judgements on one value that differ, one is that it is not in force. -/
private theorem Look.shownAt_ne {look : Look} {first second : Instant}
    (differs : look.shownAt first ≠ look.shownAt second) :
    ∃ found, look.shownAt first = some found ∧ look.shownAt second = none ∨
      look.shownAt first = none ∧ look.shownAt second = some found := by
  obtain ⟨consulted, judgedAt⟩ := look
  cases consulted with
  | none => exact absurd rfl differs
  | some found =>
      refine ⟨found, ?_⟩
      simp only [Look.shownAt, Option.filter_some] at differs ⊢
      cases firstly : found.isActive first with
      | true =>
          cases secondly : found.isActive second with
          | true => simp [firstly, secondly] at differs
          | false => simp
      | false =>
          cases secondly : found.isActive second with
          | true => simp
          | false => simp [firstly, secondly] at differs

namespace TierLooks

/-- What a look shows is what its tier reads. -/
private theorem judged_of_look {tier : Option (Except ServiceError Look)} {look : Look}
    {instantOf : Look → Instant} {shown : Option OverrideValue}
    (isLook : tier = some (.ok look))
    (shows : look.shownAt (instantOf look) = shown) :
    judged instantOf tier = some (.ok shown) := by
  rw [isLook, ← shows]
  rfl

/-- A tier that would have been judged alike reads alike. -/
private theorem judged_eq_of_isAlikeAt {tier : Option (Except ServiceError Look)}
    (alike : IsAlikeAt instant tier) :
    judged Look.judgedAt tier = judged (fun _ => instant) tier := by
  rcases tier with _ | error | look
  · rfl
  · rfl
  · exact judged_of_look rfl (alike look rfl)

/-- An outcome that an instant demands was judged alike. -/
private theorem isAlikeAt_of_outcome_eq
    (same : looks.reads.outcome policy context now =
      (looks.readsAt instant).outcome policy context now) :
    IsAlikeAt instant looks.user ∧
      (policy.Passes looks.reads.user → IsAlikeAt instant looks.tenant) := by
  have userAlike : IsAlikeAt instant looks.user := by
    intro look isLook
    by_contra differs
    obtain ⟨found, ⟨decides, passes⟩ | ⟨passes, decides⟩⟩ := Look.shownAt_ne differs
    · exact user_not_none same (judged_of_look isLook decides) (judged_of_look isLook passes)
    · exact user_not_none same.symm (judged_of_look isLook decides) (judged_of_look isLook passes)
  refine ⟨userAlike, fun userPasses look isLook => ?_⟩
  have sameUser : looks.reads.user = (looks.readsAt instant).user :=
    judged_eq_of_isAlikeAt userAlike
  by_contra differs
  obtain ⟨found, ⟨decides, passes⟩ | ⟨passes, decides⟩⟩ := Look.shownAt_ne differs
  · exact tenant_not_none same userPasses (judged_of_look isLook decides)
      (judged_of_look isLook passes)
  · exact tenant_not_none same.symm (sameUser ▸ userPasses) (judged_of_look isLook decides)
      (judged_of_look isLook passes)

/--
The outcome is the one that an instant demands exactly where the tier of users, and the tier
of tenants if it matters, would have been judged alike then.
-/
theorem outcome_reads_eq_iff :
    looks.reads.outcome policy context now = (looks.readsAt instant).outcome policy context now ↔
      IsAlikeAt instant looks.user ∧
        (policy.Passes looks.reads.user → IsAlikeAt instant looks.tenant) := by
  refine ⟨isAlikeAt_of_outcome_eq, fun ⟨userAlike, tenantAlike⟩ => ?_⟩
  have decided := Decided.decided_outcome policy context now looks.reads
  have sameUser : looks.reads.user = (looks.readsAt instant).user :=
    judged_eq_of_isAlikeAt userAlike
  refine (Decided.eq_outcome ?_).symm
  by_cases userPasses : policy.Passes looks.reads.user
  · have sameTenant : looks.reads.tenant = (looks.readsAt instant).tenant :=
      judged_eq_of_isAlikeAt (tenantAlike userPasses)
    have sameReads : looks.reads = looks.readsAt instant :=
      congrArg₂ (TierReads.mk · · looks.flag) sameUser sameTenant
    exact sameReads ▸ decided
  · have others := decided.of_user userPasses (looks.readsAt instant).tenant looks.flag
    rw [sameUser] at others
    exact others

end TierLooks

end Outcomes

/-! ## Looks among exchanges -/

/--
An instance of a world gave this reply.  The rows of the world are such as statements leave
them, and its clock shows a year of four digits.
-/
structure Exchange.IsAnsweredBy (exchange : Exchange) (world : World) : Prop where
  recorded : world.database.overrides.IsRecorded world.calendar
  storable : world.calendar.IsStorable
  answers : ∃ place, (world.handle place exchange.request).1 = exchange.reply

/-- What some exchanges say of an override, each answered by a world of its own. -/
inductive Looks (exchanges : List Exchange) (answeredBy : Exchange → World) (scope : Scope) :
    Except ServiceError Look → Prop where
  | copy {clock : Instant} {text : String} {copy : OverrideValue}
      (shown : ⟨.readClock, clock⟩ ∈ exchanges)
      (given : ⟨.call (.cacheGet (overrideCacheKey scope)), .answered (some text)⟩ ∈ exchanges)
      (decoded : Wire.decode? text = some copy) :
      Looks exchanges answeredBy scope (.ok ⟨some copy, clock⟩)
  | stored {clock : Instant} {found stored : Option OverrideValue}
      (shown : ⟨.readClock, clock⟩ ∈ exchanges)
      (answered : ⟨.call (.findOverride scope clock), .answered found⟩ ∈ exchanges)
      (isFound : found = stored.filter (OverrideValue.isActive · clock))
      (shows : ∀ now : Instant, now.IsStorable →
        (answeredBy ⟨.call (.findOverride scope clock), .answered found⟩).database.overrides.find
          scope now = .ok (stored.filter (OverrideValue.isActive · now))) :
      Looks exchanges answeredBy scope (.ok ⟨stored, clock⟩)
  | failed {clock : Instant} {outcome : Outcome (Option OverrideValue)} {error : ServiceError}
      (answered : ⟨.call (.findOverride scope clock), outcome⟩ ∈ exchanges)
      (isError : outcome.toExcept "override lookup" = .error error) :
      Looks exchanges answeredBy scope (.error error)

/-- What some exchanges say of a flag. -/
inductive TellsFlag (exchanges : List Exchange) (environment key : String) :
    Except ServiceError (Option Flag) → Prop where
  | copy {text : String} {flag : Flag}
      (given :
        ⟨.call (.cacheGet (flagCacheKey environment key)), .answered (some text)⟩ ∈ exchanges)
      (decoded : Wire.decode? text = some flag) :
      TellsFlag exchanges environment key (.ok (some flag))
  | stored {outcome : Outcome (Option Flag)}
      (answered : ⟨.call (.readFlag environment key), outcome⟩ ∈ exchanges) :
      TellsFlag exchanges environment key (outcome.toExcept "flag lookup")

/-- The looks of a resolution, as far as it goes, are among some exchanges. -/
structure TierLooks.AreAmong
    (exchanges : List Exchange)
    (answeredBy : Exchange → World)
    (policy : FailurePolicy)
    (environment key : String)
    (tenantId userId : Option String)
    (looks : TierLooks) : Prop where
  user :
    Option.Rel (Looks exchanges answeredBy) (userId.map (Scope.user environment key)) looks.user
  tenant : policy.Passes looks.reads.user →
    Option.Rel (Looks exchanges answeredBy) (tenantId.map (Scope.tenant environment key))
      looks.tenant
  flag : policy.Passes looks.reads.user → policy.Passes looks.reads.tenant →
    TellsFlag exchanges environment key looks.flag

/-- Terms by which a program gets the replies of some exchanges, whatever it asks. -/
def Terms.among (exchanges : List Exchange) : Terms where
  asks _ := True
  gives request reply := ⟨request, reply⟩ ∈ exchanges

section Among

variable {exchanges : List Exchange} {answeredBy : Exchange → World}

/-- A tier of reads that were looks is a tier of looks. -/
private theorem exists_looks_of_rel {isLook : Scope → Except ServiceError Look → Prop}
    {instantOf : Look → Instant} {scope? : Option Scope} {read? : Option OverrideRead}
    (related : Option.Rel (fun scope read => ∃ look, isLook scope look ∧
      read = look.map fun look => look.shownAt (instantOf look)) scope? read?) :
    ∃ tier, Option.Rel isLook scope? tier ∧ read? = TierLooks.judged instantOf tier := by
  cases related with
  | none => exact ⟨none, .none, rfl⟩
  | some found =>
      obtain ⟨look, is, rfl⟩ := found
      exact ⟨some look, .some is, rfl⟩

variable {environment key : String} {tenantId userId : Option String} {context : Context}
variable {now : Instant}

/-- The outcome of reads that were looks is the outcome of looks. -/
private theorem exists_looks_of_explains {policy : FailurePolicy} {reads : TierReads}
    (explained : Resolver.Explains policy
      (fun scope read => ∃ look, Looks exchanges answeredBy scope look ∧
        read = look.map fun look => look.shownAt look.judgedAt)
      (TellsFlag exchanges environment key) environment key tenantId userId reads) :
    ∃ looks : TierLooks,
      looks.AreAmong exchanges answeredBy policy environment key tenantId userId ∧
        reads.outcome policy context now = looks.reads.outcome policy context now := by
  have decided := Decided.decided_outcome policy context now reads
  obtain ⟨userRead, tenantRead, flag⟩ := reads
  obtain ⟨user, userLooks, rfl⟩ := exists_looks_of_rel explained.user
  by_cases userPasses : policy.Passes (TierLooks.judged Look.judgedAt user)
  · obtain ⟨tenant, tenantLooks, rfl⟩ := exists_looks_of_rel (explained.tenant userPasses)
    exact ⟨⟨user, tenant, flag⟩, ⟨userLooks, fun _ => tenantLooks, explained.flag⟩, rfl⟩
  · refine ⟨⟨user, none, flag⟩, ⟨userLooks, fun passes => absurd passes userPasses,
      fun passes => absurd passes userPasses⟩, ?_⟩
    exact (decided.of_user userPasses none flag).eq_outcome.symm

/-- What a store answers when an override is looked up is what it shows at that instant. -/
private theorem find_of_isAnsweredBy {world : World} {scope : Scope} {clock : Instant}
    {found : Option OverrideValue}
    (answered : Exchange.IsAnsweredBy ⟨.call (.findOverride scope clock), .answered found⟩ world) :
    world.database.overrides.find scope clock = .ok found := by
  obtain ⟨place, answers⟩ := answered.answers
  have asks : world.handle place (.call (.findOverride scope clock)) =
      world.through (world.instances[place]?.getD World.unreachable).backends.overrides
        (world.instances[place]?.getD World.unreachable).timeout World.storeRefusal fun world =>
          (world.database.overrides.find scope clock, world) :=
    rfl
  rw [asks] at answers
  exact World.ok_of_answered answers

variable (answered : ∀ exchange ∈ exchanges, exchange.IsAnsweredBy (answeredBy exchange))
include answered

private theorem storable_of_shown {clock : Instant} (shown : ⟨.readClock, clock⟩ ∈ exchanges) :
    clock.IsStorable := by
  have world := answered _ shown
  obtain ⟨place, answers⟩ := world.answers
  have isCalendar : (answeredBy ⟨.readClock, clock⟩).calendar = clock := answers
  exact isCalendar ▸ world.storable

/-- A lookup of an override is a look. -/
private theorem abides_getOverride_among (layer : Layer) (scope : Scope) :
    (layer.getOverride scope).Abides (.among exchanges) fun read =>
      ∃ look, Looks exchanges answeredBy scope look ∧
        read = look.map fun look => look.shownAt look.judgedAt := by
  have lets : (Terms.among exchanges).LetsInquire := fun _ _ => trivial
  refine Layer.abides_getOverride trivial fun clock shown => Layer.abides_getOverrideAt lets
    (fun text copy given decoded => ?_) (fun outcome told => ?_) (fun _ _ => trivial)
  · exact ⟨_, .copy shown given decoded, rfl⟩
  · cases outcome with
    | failed error => exact ⟨_, .failed told rfl, rfl⟩
    | timedOut => exact ⟨_, .failed told rfl, rfl⟩
    | answered found =>
        have world := answered _ told
        obtain ⟨stored, shows, _⟩ := world.recorded.find_eq scope
        have isFound := Except.ok.inj ((find_of_isAnsweredBy world).symm.trans
          (shows clock (storable_of_shown answered shown)))
        exact ⟨_, .stored shown told isFound shows, congrArg Except.ok isFound⟩

omit answered in
private theorem abides_getFlag_among (layer : Layer) (environment key : String) :
    (layer.getFlag environment key).Abides (.among exchanges)
      (TellsFlag exchanges environment key) :=
  Layer.abides_getFlag (fun _ _ => trivial) (fun _ _ given decoded => .copy given decoded)
    (fun _ told => .stored told) (fun _ _ => trivial)

/-- A resolution ends as its looks and the pinned instant have it. -/
private theorem abides_resolve_among (resolver : Resolver) (environment key : String)
    (tenantId userId : Option String) (context : Context) (now : Instant) :
    (resolver.resolve environment key tenantId userId (context.pinned now)).Abides
      (.among exchanges) fun outcome => ∃ looks : TierLooks,
        looks.AreAmong exchanges answeredBy resolver.policy environment key tenantId userId ∧
          outcome = looks.reads.outcome resolver.policy (context.pinned now)
            (context.instantAt now) := by
  have stands (clock : Instant) :
      (context.pinned now).instantAt clock =
        (context.pinned now).instantAt (context.instantAt now) :=
    rfl
  exact Resolver.abides_resolve trivial (fun _ _ => trivial)
    (fun scope _ => abides_getOverride_among answered resolver.layer scope)
    (abides_getFlag_among resolver.layer environment key) (fun clock _ => stands clock)
    fun reads explained => exists_looks_of_explains explained

end Among

namespace Evaluator

variable {State : Type} {handler : (request : Request) → State → request.Reply × State}

/-- Joined resolutions end as their looks and the pinned instant have it. -/
private theorem joins_looks {exchanges : List Exchange} {answeredBy : Exchange → World}
    (answered : ∀ exchange ∈ exchanges, exchange.IsAnsweredBy (answeredBy exchange))
    (evaluator : Evaluator) (schedule : List String) (environment : String) (context : Context)
    (now : Instant) (keys : List String) (state : State)
    (within : ∀ exchange ∈ (joinAlong schedule (evaluator.pending environment (context.pinned now))
      keys).run.exchanges handler state, exchange ∈ exchanges) :
    Joins (fun key outcome => ∃ looks : TierLooks,
        looks.AreAmong exchanges answeredBy evaluator.resolver.policy environment key
          context.tenantId context.userId ∧
        outcome = looks.reads.outcome evaluator.resolver.policy (context.pinned now)
          (context.instantAt now))
      keys ((joinAlong schedule (evaluator.pending environment (context.pinned now))
        keys).perform handler state).1 := by
  have abides := abides_joinAlong schedule fun key (_ : key ∈ keys) =>
    abides_resolve_among answered evaluator.resolver environment key context.tenantId
      context.userId context now
  exact (abides.exchanges within).1

/--
The records of a call and the rules of all its keys go by one pinned instant.  Each look at an
override goes by a reading of the clock of its own, so the outcome for a key is the one that the
pinned instant demands exactly where the looks that matter would have been judged alike then.
-/
theorem answers_at_one_instant_iff
    (evaluator : Evaluator)
    (schedule : List String)
    (environment? : Option String)
    {keys : List String}
    (context : Context)
    (state : State)
    (answeredBy : Exchange → World)
    (valid : IsValid (environment?.getD evaluator.defaultEnvironment) keys)
    (answered : ∀ exchange ∈
      (evaluator.evaluateAlong schedule environment? keys context).run.exchanges handler state,
      exchange.IsAnsweredBy (answeredBy exchange)) :
    let environment := environment?.getD evaluator.defaultEnvironment
    let call := evaluator.evaluateAlong schedule environment? keys context
    let exchanges := call.run.exchanges handler state
    let policy := evaluator.resolver.policy
    ∃ now : Instant, ⟨.readClock, now⟩ ∈ exchanges ∧
      let pinned := context.pinned now
      let instant := context.instantAt now
      InStep environment context instant (call.batches handler state)
        (call.perform handler state).1 ∧
      Joins (fun key outcome => ∃ looks : TierLooks,
          looks.AreAmong exchanges answeredBy policy environment key context.tenantId
            context.userId ∧
          outcome = looks.reads.outcome policy pinned instant ∧
          (outcome = (looks.readsAt instant).outcome policy pinned instant ↔
            TierLooks.IsAlikeAt instant looks.user ∧
              (policy.Passes looks.reads.user → TierLooks.IsAlikeAt instant looks.tenant)))
        (distinctKeys keys) (call.perform handler state).1 := by
  intro environment call exchanges policy
  obtain ⟨ended, inStep, after, made⟩ :=
    joins_of_check handler (check_eq_ok_iff.mpr valid) schedule context state
  refine ⟨_, by simp [exchanges, call, made], inStep, ?_⟩
  rw [ended]
  refine (joins_looks answered evaluator schedule _ context _ _ _ fun exchange member => ?_).mono
    fun key _ outcome => ?_
  · rw [made]
    exact List.mem_append_left after (List.mem_append_right _ member)
  · rintro ⟨looks, areAmong, rfl⟩
    exact ⟨looks, areAmong, rfl, TierLooks.outcome_reads_eq_iff⟩

namespace Expiring

/-- The instant that the context brings along. -/
def explicit : Instant :=
  .startOf ⟨2024, 4, 1, by decide⟩

/-- The instant at which the override expires, before the clock of the world is read. -/
def expiry : Instant :=
  .startOf ⟨2024, 4, 15, by decide⟩

/-- The scope of the override. -/
def target : Scope :=
  .user "prod" "beta.search" "u1"

/-- A deployment in which the flag was on for one user. -/
def world : World :=
  World.addInstance {
    calendar := .mayDay
    database := {
      overrides :=
        (OverrideTable.upsert {} (.ofNat 1) target true (some expiry) explicit).2 } } {}

/-- Nothing that is asked for changes the deployment. -/
def frozen (request : Request) (_ : Unit) : request.Reply × Unit :=
  ((world.handle 0 request).1, ())

/-- Who is asked: a failing tier is a failure of the answer. -/
def reader : Evaluator :=
  ⟨⟨{}, .propagate⟩, "prod"⟩

/-- The user of the override, at the instant that is brought along. -/
def context : Context :=
  { userId := some "u1", now := some explicit }

private theorem recorded : world.database.overrides.IsRecorded world.calendar := by
  have step : OverrideTable.Step (fun _ => True) {} explicit
      (OverrideTable.upsert {} (.ofNat 1) target true (some expiry) explicit).2 explicit.next :=
    .upsert (.ofNat 1) true (some expiry) trivial
  exact ((OverrideTable.isRecorded_empty explicit).step (by decide) step).mono (by decide)

private theorem reply_of_mem {program : Program α} {exchange : Exchange}
    (member : exchange ∈ program.exchanges frozen ()) :
    (world.handle 0 exchange.request).1 = exchange.reply := by
  induction program with
  | done value => cases member
  | step request resume inductionHypothesis =>
      rcases List.mem_cons.mp member with rfl | later
      · rfl
      · exact inductionHypothesis _ later

/-- Every look at the override that does not fail consults what is in force at that instant. -/
private theorem shownAt_explicit {program : Program α} {look : Look}
    (looks : Looks (program.exchanges frozen ()) (fun _ => world) target (.ok look)) :
    look.shownAt explicit = some ⟨true, some expiry⟩ := by
  cases looks with
  | copy _ given _ =>
      have nothing : (world.handle 0 (.call (.cacheGet (overrideCacheKey target)))).1 =
          .answered none :=
        rfl
      rw [reply_of_mem given] at nothing
      cases nothing
  | stored _ _ _ shows =>
      have found : world.database.overrides.find target explicit =
          .ok (some ⟨true, some expiry⟩) := by
        decide
      exact Except.ok.inj ((shows explicit (by decide)).symm.trans found)

end Expiring

open Expiring in
/--
The hypotheses hold of a call whose context names an instant before the override of its user
expired: the answer is that there is no flag, and not the override that was in force then.
-/
theorem answers_at_one_instant_iff_expiring :
    let call := reader.evaluateAlong [] none ["beta.search"] context
    let exchanges := call.run.exchanges frozen ()
    IsValid "prod" ["beta.search"] ∧
      (∀ exchange ∈ exchanges, exchange.IsAnsweredBy world) ∧
      (call.perform frozen ()).1 = .ok [("beta.search", ⟨false, .flagNotFound⟩)] ∧
      ∃ looks : TierLooks,
        looks.AreAmong exchanges (fun _ => world) .propagate "prod" "beta.search" none
          (some "u1") ∧
        (looks.readsAt explicit).outcome .propagate context explicit =
          .ok ⟨true, .userOverride⟩ ∧
        ¬TierLooks.IsAlikeAt explicit looks.user := by
  intro call exchanges
  have valid : IsValid "prod" ["beta.search"] := check_eq_ok_iff.mp (by decide)
  have answered (exchange : Exchange) (member : exchange ∈ exchanges) :
      exchange.IsAnsweredBy world :=
    ⟨recorded, by decide, 0, reply_of_mem member⟩
  have ended : (call.perform frozen ()).1 = .ok [("beta.search", ⟨false, .flagNotFound⟩)] := by
    decide
  refine ⟨valid, answered, ended, ?_⟩
  obtain ⟨now, _, _, joins⟩ := answers_at_one_instant_iff reader [] none context ()
    (fun _ => world) valid answered
  rw [ended] at joins
  obtain ⟨looks, areAmong, outcome, alike⟩ := joins.2 _ (List.mem_singleton_self _)
  obtain ⟨look, isLook, shown⟩ : ∃ look, looks.user = some (.ok look) ∧
      look.shownAt explicit = some ⟨true, some expiry⟩ := by
    have isUser := areAmong.user
    rcases user : looks.user with _ | error | look
    · rw [user] at isUser
      cases isUser
    · have failed : looks.reads.user = some (.error error) :=
        congrArg (TierLooks.judged Look.judgedAt) user
      rw [(Decided.userFailed failed (by rintro ⟨⟨⟩, _⟩)).eq_outcome] at outcome
      cases outcome
    · rw [user] at isUser
      cases isUser with
      | some among => exact ⟨look, rfl, shownAt_explicit among⟩
  refine ⟨looks, areAmong, ?_, fun isAlike => ?_⟩
  · have demanded : (looks.readsAt explicit).user = some (.ok (some ⟨true, some expiry⟩)) :=
      TierLooks.judged_of_look isLook shown
    exact (Decided.user demanded).eq_outcome
  · have judged : looks.reads.user = some (.ok (some ⟨true, some expiry⟩)) :=
      TierLooks.judged_of_look isLook ((isAlike look isLook).trans shown)
    rw [(Decided.user judged).eq_outcome] at outcome
    cases outcome

end Evaluator

end Switchboard
