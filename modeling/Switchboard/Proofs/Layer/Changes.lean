import Switchboard.Proofs.Layer.Inquiries

namespace Switchboard

/-!
# What operations rely on

An operation of the layer or of the resolver fails by nothing but the errors of its replies,
the calls that it gave up, and a version that is not the expected one.  A write asks the store
once, and what follows tells of it.
-/

/-- The error that a reply brings. -/
def Request.errorOf : (request : Request) → request.Reply → Option ServiceError
  | .call _, .failed error => some error
  | .listDead .., .error error => some error
  | .purge .., .error error => some error
  | _, _ => none

/-- The requests that follow a write. -/
def Request.IsFollowUp : Request → Prop
  | .call (.cacheDelete _) => True
  | .call (.publish ..) => True
  | .call (.readFlagVersion ..) => True
  | .readClock => True
  | .count .. => True
  | _ => False

namespace Terms

variable {terms : Terms} {fails : ServiceError → Prop}

/-- Terms under which a program may at least follow up its writes. -/
def LetsFollowUp (terms : Terms) : Prop :=
  ∀ request : Request, request.IsFollowUp → terms.asks request

/-- Under the terms, nothing else goes wrong but this. -/
structure GoesWrongBy (terms : Terms) (fails : ServiceError → Prop) : Prop where
  replied : ∀ request reply error, terms.gives request reply →
    request.errorOf reply = some error → fails error
  timedOut : ∀ operation, fails (.timeout operation)
  conflicted : ∀ environment key expected actual,
    fails (.versionConflict environment key expected actual)

/-- What fails, fails by one error or another. -/
theorem GoesWrongBy.anyhow (terms : Terms) : terms.GoesWrongBy fun _ => True where
  replied _ _ _ _ _ := trivial
  timedOut _ := trivial
  conflicted _ _ _ _ := trivial

theorem GoesWrongBy.call (wrong : terms.GoesWrongBy fails) {call : Call}
    {outcome : Outcome call.Answer} (given : terms.gives (.call call) outcome)
    (operation : String) :
    FailsOnlyBy fails (outcome.toExcept operation) := by
  intro error failed
  cases outcome with
  | answered value => cases failed
  | failed cause =>
      cases failed
      exact wrong.replied _ _ _ given rfl
  | timedOut =>
      cases failed
      exact wrong.timedOut operation

/-- What a layer may put into the cache is what the stores gave it. -/
structure LetsFill (terms : Terms) (layer : Layer) : Prop where
  flags : ∀ environment key flag,
    terms.gives (.call (.readFlag environment key)) (.answered (some flag)) →
      terms.asks
        (.call (.cacheSet (flagCacheKey environment key) (Wire.encode flag) layer.lifetime))
  overrides : ∀ scope now value,
    terms.gives (.call (.findOverride scope now)) (.answered (some value)) →
      terms.asks
        (.call (.cacheSet (overrideCacheKey scope) (Wire.encode value) layer.lifetime))

end Terms

variable {terms : Terms} {fails : ServiceError → Prop}

theorem failsOnlyBy_ok (value : α) : FailsOnlyBy fails (.ok value) :=
  fun _ failed => by cases failed

theorem failsOnlyBy_error {error : ServiceError} (failed : fails error) :
    FailsOnlyBy fails (.error error : Except ServiceError α) :=
  fun _ same => by
    cases same
    exact failed

namespace Layer

variable {layer : Layer}

section Reads

variable (lets : terms.LetsInquire) (fills : terms.LetsFill layer)
  (wrong : terms.GoesWrongBy fails)
include lets fills wrong

theorem getFlag_failing (environment key : String) :
    (layer.getFlag environment key).Abides terms (FailsOnlyBy fails) :=
  abides_getFlag lets
    (fun _ flag _ _ => failsOnlyBy_ok (some flag))
    (fun _ given => wrong.call given _)
    (fills.flags environment key)

theorem getOverride_failing (scope : Scope) :
    (layer.getOverride scope).Abides terms (FailsOnlyBy fails) :=
  abides_getOverride (lets _ trivial) fun now _ => abides_getOverrideAt lets
    (fun _ _ _ _ => failsOnlyBy_ok _)
    (fun _ given => wrong.call given _)
    (fills.overrides scope now)

end Reads

section Writes

variable (lets : terms.LetsFollowUp) (wrong : terms.GoesWrongBy fails)
include lets wrong

/-- Dropping an entry and publishing the news. -/
theorem invalidate_failing (cacheKey : String) (event : Invalidation) :
    (layer.invalidate cacheKey event).Abides terms (FailsOnlyBy fails) := by
  refine Operation.abides_bind (Operation.abides_attempt (Operation.abides_call
    (lets _ trivial) (lets _ trivial) fun dropped givenDropped => ?_))
  refine Operation.abides_bind (Operation.abides_attempt (Operation.abides_call
    (lets _ trivial) (lets _ trivial) fun told _ => ?_))
  have counted {counter : Counter} {next : Unit → Operation Unit}
      (continues : (next ()).Abides terms (FailsOnlyBy fails)) :
      (Operation.count counter >>= next).Abides terms (FailsOnlyBy fails) :=
    Operation.abides_bind (Operation.abides_ask (lets _ trivial) fun _ _ => continues)
  have ended := wrong.call givenDropped (Call.cacheDelete cacheKey).operation
  dsimp only
  generalize dropped.toExcept (Call.cacheDelete cacheKey).operation = outcome at ended ⊢
  generalize told.toExcept (Call.publish layer.topic event).operation = published
  cases outcome with
  | ok _ =>
      cases published with
      | ok _ => exact counted (Operation.abides_pure ended)
      | error _ => exact counted (Operation.abides_pure ended)
  | error error =>
      cases published with
      | ok _ => exact counted (Operation.abides_throw ended)
      | error _ => exact counted (Operation.abides_throw ended)

private theorem announceOverride_failing (scope : Scope) :
    (layer.announceOverride scope).Abides terms (FailsOnlyBy fails) :=
  Operation.abides_bind (Operation.abides_ask (lets _ trivial) fun _ _ =>
    invalidate_failing lets wrong _ _)

theorem writeFlag_failing {write : FlagWrite} {expected : Option Int64}
    (asks : terms.asks (.call (.applyFlagWrite write expected))) :
    (layer.writeFlag write expected).Abides terms (FailsOnlyBy fails) := by
  refine Operation.abides_bind_failing
    (Operation.abides_call asks (lets _ trivial) fun _ given => wrong.call given _)
    fun (written : Option Flag) => ?_
  cases written with
  | none =>
      refine Operation.abides_bind_failing (Operation.abides_call (lets _ trivial)
        (lets _ trivial) fun _ given => wrong.call given _) fun (actual : Option Int64) => ?_
      exact Operation.abides_bind (Operation.abides_ask (lets _ trivial) fun _ _ =>
        Operation.abides_throw (failsOnlyBy_error (wrong.conflicted _ _ _ actual)))
  | some flag =>
      refine Operation.abides_bind (Operation.abides_ask (lets _ trivial) fun _ _ => ?_)
      exact Operation.abides_bind_failing (invalidate_failing lets wrong _ _) fun _ =>
        Operation.abides_pure (failsOnlyBy_ok flag)

theorem upsertOverride_failing {scope : Scope} {value : Bool} {expiresAt : Option Instant}
    (asks : terms.asks (.call (.upsertOverride scope value expiresAt))) :
    (layer.upsertOverride scope value expiresAt).Abides terms (FailsOnlyBy fails) := by
  refine Operation.abides_bind_failing
    (Operation.abides_call asks (lets _ trivial) fun _ given => wrong.call given _)
    fun (stored : Override) => ?_
  exact Operation.abides_bind_failing (announceOverride_failing lets wrong scope) fun _ =>
    Operation.abides_pure (failsOnlyBy_ok stored)

theorem clearOverride_failing {scope : Scope} (asks : terms.asks (.call (.clearOverride scope))) :
    (layer.clearOverride scope).Abides terms (FailsOnlyBy fails) :=
  Operation.abides_bind_failing
    (Operation.abides_call asks (lets _ trivial) fun _ given => wrong.call given _)
    fun _ => announceOverride_failing lets wrong scope

omit lets in
theorem sweep_failing {now : Instant} {limit : Nat}
    (lists : terms.asks (.listDead now limit))
    (purges : ∀ ids, terms.asks (.purge ids now)) :
    (sweep now limit).Abides terms (FailsOnlyBy fails) := by
  refine Operation.abides_bind (Operation.abides_ask lists
    fun (listed : Except ServiceError (List Override)) given => ?_)
  cases listed with
  | error error =>
      exact failsOnlyBy_error (wrong.replied (.listDead now limit) _ error given rfl)
  | ok dead =>
      change (if dead.isEmpty then return 0 else do
        let removed : Except ServiceError Nat ← Operation.ask (.purge (dead.map Override.id) now)
        ExceptT.mk (pure removed) : Operation Nat).Abides terms (FailsOnlyBy fails)
      split
      · exact Operation.abides_pure (failsOnlyBy_ok 0)
      · refine Operation.abides_bind (Operation.abides_ask (purges _)
          fun (removed : Except ServiceError Nat) given => ?_)
        cases removed with
        | error error =>
            exact failsOnlyBy_error (wrong.replied (.purge _ now) _ error given rfl)
        | ok count => exact failsOnlyBy_ok count

end Writes

end Layer

namespace Resolver

variable {resolver : Resolver}

theorem resolve_failing {context : Context} {now : Instant}
    (lets : terms.LetsInquire)
    (fills : terms.LetsFill resolver.layer)
    (wrong : terms.GoesWrongBy fails)
    (pinned : context.now = some now)
    (environment key : String)
    (tenantId userId : Option String) :
    (resolver.resolve environment key tenantId userId context).Abides terms
      (FailsOnlyBy fails) := by
  have stands (clock : Instant) : context.instantAt clock = context.instantAt now := by
    simp only [Context.instantAt, pinned, Option.getD_some]
  refine abides_resolve (lets _ trivial) (fun _ _ => lets _ trivial)
    (fun scope _ => Layer.getOverride_failing lets fills wrong scope)
    (Layer.getFlag_failing lets fills wrong environment key) (fun clock _ => stands clock)
    fun reads explained error failed => ?_
  have blamed {scope? : Option Scope}
      (seen : Option.Rel (fun _ => FailsOnlyBy fails) scope?
        (some (.error error : OverrideRead))) :
      fails error := by
    cases seen with
    | some isSeen => exact isSeen error rfl
  have decided := failed ▸ Decided.decided_outcome resolver.policy context now reads
  cases decided with
  | userFailed read _ => exact blamed (read ▸ explained.user)
  | tenantFailed userPasses read _ => exact blamed (read ▸ explained.tenant userPasses)
  | flagFailed userPasses tenantPasses read =>
      exact explained.flag userPasses tenantPasses error read

end Resolver

end Switchboard
