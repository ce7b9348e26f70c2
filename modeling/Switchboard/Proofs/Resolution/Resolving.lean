import Switchboard.Proofs.Layer.Performing
import Switchboard.Proofs.Resolution.Tiers

namespace Switchboard.Resolver

/-!
# Resolving

A resolver reads tier after tier and stops at the first that decides.  Whatever answers
its requests, it gives what the rules of the three tiers give for the outcomes of its
reads.
-/

section Performing

variable {State : Type} (handler : (request : Request) → State → request.Reply × State)
variable (resolver : Resolver)

/-- The read of a tier of overrides, and the state that it leaves behind. -/
def readTier (scope : Option Scope) (state : State) : Option OverrideRead × State :=
  match scope with
  | none => (none, state)
  | some scope =>
      let read := Operation.perform handler (resolver.layer.getOverride scope) state
      (some read.1, read.2)

/-- The read of the tier of users. -/
def readUser (environment key : String) (userId : Option String) (state : State) :
    Option OverrideRead × State :=
  resolver.readTier handler (userId.map (Scope.user environment key)) state

/-- The read of the tier of tenants, made where the one of the tier of users ended. -/
def readTenant (environment key : String) (tenantId userId : Option String) (state : State) :
    Option OverrideRead × State :=
  resolver.readTier handler (tenantId.map (Scope.tenant environment key))
    (resolver.readUser handler environment key userId state).2

/-- The read of the flag, made where the one of the tier of tenants ended. -/
def readFlag (environment key : String) (tenantId userId : Option String) (state : State) :
    Except ServiceError (Option Flag) × State :=
  Operation.perform handler (resolver.layer.getFlag environment key)
    (resolver.readTenant handler environment key tenantId userId state).2

/-- The outcomes that the reads of the tiers have when they are made one after the other. -/
def reads (environment key : String) (tenantId userId : Option String) (state : State) :
    TierReads where
  user := (resolver.readUser handler environment key userId state).1
  tenant := (resolver.readTenant handler environment key tenantId userId state).1
  flag := (resolver.readFlag handler environment key tenantId userId state).1

/-- A lookup reads once, and its result is what the policy makes of the read. -/
theorem perform_lookupOverride (scope : Scope) (state : State) :
    Operation.perform handler (resolver.lookupOverride scope) state =
      let read := Operation.perform handler (resolver.layer.getOverride scope) state
      (resolver.policy.judge read.1, read.2) := by
  unfold lookupOverride
  rw [Operation.perform_bind_ok handler _ (Operation.perform_attempt handler _ state)]
  rcases Operation.perform handler (resolver.layer.getOverride scope) state with ⟨read, later⟩
  cases read with
  | ok found => rfl
  | error error =>
      by_cases excused : resolver.policy.Excuses error
      · have tested : (error.isInfrastructure && resolver.policy == .treatAsAbsent) = true := by
          simp [excused.1, excused.2]
        simp [FailurePolicy.judge, excused, tested]
      · have tested : ¬(error.isInfrastructure && resolver.policy == .treatAsAbsent) = true := by
          intro tested
          rw [Bool.and_eq_true, beq_iff_eq] at tested
          exact excused ⟨tested.2, tested.1⟩
        simp only [FailurePolicy.judge, excused, if_false, tested]
        rfl

/-- A tier is read at most once, and its result is what the policy makes of the read. -/
theorem perform_lookupTier (scope : Option Scope) (state : State) :
    Operation.perform handler (resolver.lookupTier scope) state =
      (resolver.policy.judgeTier (resolver.readTier handler scope state).1,
        (resolver.readTier handler scope state).2) := by
  cases scope with
  | none => rfl
  | some scope => exact perform_lookupOverride handler resolver scope state

end Performing

section Deciding

variable {State : Type} {handler : (request : Request) → State → request.Reply × State}
variable {resolver : Resolver} {environment key : String} {tenantId userId : Option String}
variable {context : Context} {state : State}

/-- What the tier of users reads is looked up first. -/
private theorem perform_lookupUser {judged : OverrideRead}
    (read : resolver.policy.judgeTier
      (resolver.readUser handler environment key userId state).1 = judged) :
    Operation.perform handler
        (resolver.lookupTier (userId.map (Scope.user environment key))) state =
      (judged, (resolver.readUser handler environment key userId state).2) := by
  rw [perform_lookupTier, ← read]
  rfl

/-- What the tier of tenants reads is looked up after it. -/
private theorem perform_lookupTenant {judged : OverrideRead}
    (read : resolver.policy.judgeTier
      (resolver.readTenant handler environment key tenantId userId state).1 = judged) :
    Operation.perform handler
        (resolver.lookupTier (tenantId.map (Scope.tenant environment key)))
        (resolver.readUser handler environment key userId state).2 =
      (judged, (resolver.readTenant handler environment key tenantId userId state).2) := by
  rw [perform_lookupTier, ← read]
  rfl

/-- Nothing is read after the tier of users when it decides. -/
theorem perform_decide_of_user {found : OverrideValue}
    (read : resolver.policy.judgeTier
      (resolver.readUser handler environment key userId state).1 = .ok (some found)) :
    Operation.perform handler (resolver.decide environment key tenantId userId context) state =
      (.ok ⟨found.value, .userOverride⟩,
        (resolver.readUser handler environment key userId state).2) :=
  Operation.perform_bind_ok handler _ (perform_lookupUser read)

/-- Nothing is read after the tier of users when it stops. -/
theorem perform_decide_of_userError {error : ServiceError}
    (read : resolver.policy.judgeTier
      (resolver.readUser handler environment key userId state).1 = .error error) :
    Operation.perform handler (resolver.decide environment key tenantId userId context) state =
      (.error error, (resolver.readUser handler environment key userId state).2) :=
  Operation.perform_bind_error handler _ (perform_lookupUser read)

section UserPasses

variable (userPasses : resolver.policy.judgeTier
  (resolver.readUser handler environment key userId state).1 = .ok none)
include userPasses

/-- Nothing is read after the tier of tenants when it decides. -/
theorem perform_decide_of_tenant {found : OverrideValue}
    (read : resolver.policy.judgeTier
      (resolver.readTenant handler environment key tenantId userId state).1 = .ok (some found)) :
    Operation.perform handler (resolver.decide environment key tenantId userId context) state =
      (.ok ⟨found.value, .tenantOverride⟩,
        (resolver.readTenant handler environment key tenantId userId state).2) :=
  (Operation.perform_bind_ok handler _ (perform_lookupUser userPasses)).trans
    (Operation.perform_bind_ok handler _ (perform_lookupTenant read))

/-- Nothing is read after the tier of tenants when it stops. -/
theorem perform_decide_of_tenantError {error : ServiceError}
    (read : resolver.policy.judgeTier
      (resolver.readTenant handler environment key tenantId userId state).1 = .error error) :
    Operation.perform handler (resolver.decide environment key tenantId userId context) state =
      (.error error, (resolver.readTenant handler environment key tenantId userId state).2) :=
  (Operation.perform_bind_ok handler _ (perform_lookupUser userPasses)).trans
    (Operation.perform_bind_error handler _ (perform_lookupTenant read))

variable (tenantPasses : resolver.policy.judgeTier
  (resolver.readTenant handler environment key tenantId userId state).1 = .ok none)
include tenantPasses

/-- Where both tiers of overrides pass, the flag decides. -/
theorem perform_decide_of_flag {now : Instant} (pinned : context.now = some now) :
    (Operation.perform handler
        (resolver.decide environment key tenantId userId context) state).1 =
      (resolver.readFlag handler environment key tenantId userId state).1.map
        fun flag? => resolveFlag flag? context now := by
  refine (congrArg Prod.fst ((Operation.perform_bind_ok handler _
    (perform_lookupUser userPasses)).trans
      (Operation.perform_bind_ok handler _ (perform_lookupTenant tenantPasses)))).trans ?_
  unfold readFlag
  rw [Operation.perform_bind]
  rcases Operation.perform handler (resolver.layer.getFlag environment key)
    (resolver.readTenant handler environment key tenantId userId state).2 with ⟨read, later⟩
  cases read with
  | error error => rfl
  | ok flag? =>
      change Except.ok (resolveFlag flag? context _) = _
      rw [resolveFlag_of_now pinned]
      rfl

end UserPasses

/-- Counting a resolution changes nothing of it. -/
theorem perform_resolve_fst :
    (Operation.perform handler
        (resolver.resolve environment key tenantId userId context) state).1 =
      (Operation.perform handler
        (resolver.decide environment key tenantId userId context) state).1 := by
  unfold resolve
  rw [Operation.perform_bind]
  rcases Operation.perform handler
    (resolver.decide environment key tenantId userId context) state with ⟨outcome, later⟩
  cases outcome with
  | ok resolution => rfl
  | error error => rfl

/-- A resolver gives what the outcomes of its reads determine. -/
theorem perform_resolve {now : Instant} (pinned : context.now = some now) :
    (Operation.perform handler
        (resolver.resolve environment key tenantId userId context) state).1 =
      (resolver.reads handler environment key tenantId userId state).outcome
        resolver.policy context now := by
  rw [perform_resolve_fst]
  unfold TierReads.outcome reads
  cases userRead : resolver.policy.judgeTier
      (resolver.readUser handler environment key userId state).1 with
  | error error => rw [perform_decide_of_userError userRead]
  | ok found =>
      cases found with
      | some found => rw [perform_decide_of_user userRead]
      | none =>
          cases tenantRead : resolver.policy.judgeTier
              (resolver.readTenant handler environment key tenantId userId state).1 with
          | error error => rw [perform_decide_of_tenantError userRead tenantRead]
          | ok found =>
              cases found with
              | some found => rw [perform_decide_of_tenant userRead tenantRead]
              | none => rw [perform_decide_of_flag userRead tenantRead pinned]

end Deciding

section Outcomes

/--
Replies that tell the resolver any outcomes whatever: the cache gives nothing, and the
stores say what they are told to say.
-/
def scripted
    (user tenant : OverrideRead)
    (flag : Except ServiceError (Option Flag)) :
    (request : Request) → Unit → request.Reply × Unit
  | .call (.findOverride ⟨_, _, .user, _⟩ _), _ => (.ofExcept user, ())
  | .call (.findOverride ⟨_, _, .tenant, _⟩ _), _ => (.ofExcept tenant, ())
  | .call (.readFlag ..), _ => (.ofExcept flag, ())
  | .call _, _ => (.timedOut, ())
  | .listDead .., _ => (.ok [], ())
  | .purge .., _ => (.ok 0, ())
  | .readClock, _ => (.startOf ⟨1970, 1, 1, by decide⟩, ())
  | .count .., _ => ((), ())
  | .observeBatch _, _ => ((), ())
  | .logExposures _, _ => (.ok (), ())

/-- No combination of outcomes of the three reads is out of the question. -/
theorem reads_scripted
    (resolver : Resolver)
    (environment key : String)
    (tenantId userId : Option String)
    (user tenant : OverrideRead)
    (flag : Except ServiceError (Option Flag)) :
    resolver.reads (scripted user tenant flag) environment key tenantId userId () =
      ⟨userId.map fun _ => user, tenantId.map fun _ => tenant, flag⟩ := by
  have flagRead : (Operation.perform (scripted user tenant flag)
      (resolver.layer.getFlag environment key) ()).1 = flag := by
    rcases flag with error | _ | found <;> rfl
  have userRead (holder : String) : (Operation.perform (scripted user tenant flag)
      (resolver.layer.getOverride (.user environment key holder)) ()).1 = user := by
    rcases user with error | _ | found <;> rfl
  have tenantRead (holder : String) : (Operation.perform (scripted user tenant flag)
      (resolver.layer.getOverride (.tenant environment key holder)) ()).1 = tenant := by
    rcases tenant with error | _ | found <;> rfl
  unfold reads readFlag readTenant readUser
  rw [flagRead]
  cases userId with
  | none =>
      cases tenantId with
      | none => rfl
      | some tenantId => simp only [readTier, Option.map_none, Option.map_some, tenantRead]
  | some userId =>
      cases tenantId with
      | none => simp only [readTier, Option.map_none, Option.map_some, userRead]
      | some tenantId => simp only [readTier, Option.map_some, userRead, tenantRead]

end Outcomes

/--
Whatever answers its requests, a resolver gives exactly what the rules for the outcomes of
its reads give, and what comes below the tier that decides could have been anything.
-/
theorem resolve_refines_tiers
    {State : Type}
    (handler : (request : Request) → State → request.Reply × State)
    (resolver : Resolver)
    (environment key : String)
    (tenantId userId : Option String)
    {context : Context}
    {now : Instant}
    (pinned : context.now = some now)
    (state : State) :
    let resolved := (Operation.perform handler
      (resolver.resolve environment key tenantId userId context) state).1
    let reads := resolver.reads handler environment key tenantId userId state
    (∀ outcome, resolved = outcome ↔ Decided resolver.policy context now reads outcome) ∧
      (¬resolver.policy.Passes reads.user → ∀ tenant flag,
        Decided resolver.policy context now ⟨reads.user, tenant, flag⟩ resolved) ∧
      (¬resolver.policy.Passes reads.tenant → ∀ flag,
        Decided resolver.policy context now ⟨reads.user, reads.tenant, flag⟩ resolved) := by
  intro resolved reads
  have same : resolved = reads.outcome resolver.policy context now := perform_resolve pinned
  have decided : Decided resolver.policy context now reads resolved :=
    same ▸ Decided.decided_outcome resolver.policy context now reads
  refine ⟨fun outcome => ⟨fun is => is ▸ decided, fun other => ?_⟩, ?_, ?_⟩
  · exact same.trans other.eq_outcome
  · exact decided.of_user
  · exact decided.of_tenant

namespace Excused

/-- The instant of the context. -/
def now : Instant :=
  .startOf ⟨2024, 6, 3, by decide⟩

/-- A rule that nobody meets here, and one without conditions behind it. -/
def flag : Flag where
  environment := "prod"
  key := "beta.search"
  enabledDefault := false
  rules := [⟨[.percentage 0], false⟩, ⟨[], true⟩]
  version := 1
  lastEditorId := none
  createdAt := now
  updatedAt := now

/-- The store hangs at the override of the user, has none of the tenant, and has the flag. -/
def handler : (request : Request) → Unit → request.Reply × Unit :=
  scripted (.error (.timeout "override lookup")) (.ok none) (.ok (some flag))

end Excused

/-- A lookup that took too long counts as absent, and the second rule decides. -/
theorem resolve_refines_tiers_excused :
    ({ now := some Excused.now } : Context).now = some Excused.now ∧
      (Operation.perform Excused.handler
        ((Resolver.mk {} .treatAsAbsent).resolve "prod" "beta.search" (some "acme") (some "u1")
          { now := some Excused.now }) ()).1 = .ok ⟨true, .ruleMatch 1⟩ := by
  have pinned : ({ now := some Excused.now } : Context).now = some Excused.now := rfl
  have refined := resolve_refines_tiers Excused.handler (Resolver.mk {} .treatAsAbsent) "prod"
    "beta.search" (some "acme") (some "u1") pinned ()
  refine ⟨pinned, (refined.1 _).mpr ?_⟩
  unfold Excused.handler
  rw [reads_scripted]
  have first : IsFirstMatch Excused.flag.rules { now := some Excused.now } Excused.now 1
      ⟨[], true⟩ :=
    firstMatch_eq_some_iff.mp (by decide)
  refine .rule ?_ ?_ ?_ first
  · exact ⟨rfl, rfl⟩
  · exact rfl
  · exact rfl

end Switchboard.Resolver
