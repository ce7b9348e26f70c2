import Switchboard.Proofs.Accounting.Transcripts
import Switchboard.Proofs.Guarding.Refusals
import Switchboard.Proofs.Layer.Tasks

namespace Switchboard.Accounting

/-!
# Deeds and what they are made of

Callers ask a layer, a resolver or a service.  Whatever is asked, it comes down to reads and
writes of a layer, one after the other, with what is checked and counted between them.  A
property that goes from these to operations in a row is thus one of everything that a caller
may ask for.
-/

/-- What a caller asks of a layer, a resolver or a service. -/
inductive Deed where
  | work (layer : Layer) (task : Layer.Task)
  | resolve (resolver : Resolver) (environment key : String) (tenantId userId : Option String)
      (context : Context)
  | serve (service : Service) (task : Guarding.Task)

namespace Deed

/-- What a deed gives when it succeeds. -/
@[reducible] def Answer : Deed → Type
  | work _ task => task.Answer
  | resolve .. => Resolution
  | serve _ task => task.Answer

/-- The operation of a deed. -/
def operation : (deed : Deed) → Operation deed.Answer
  | work layer task => task.operation layer
  | resolve resolver environment key tenantId userId context =>
      resolver.resolve environment key tenantId userId context
  | serve service task => task.operation service

end Deed

/-- What an operation gives, or nothing where it fails in a way that is excused. -/
def rescue (excuses : ServiceError → Bool) (operation : Operation (Option α)) :
    Operation (Option α) := do
  match ← operation.attempt with
  | .ok found => return found
  | .error error => if excuses error then return none else throw error

/-- A tier that cannot be read is taken for absent where the policy has it so. -/
theorem lookupOverride_eq_rescue (resolver : Resolver) (scope : Scope) :
    resolver.lookupOverride scope =
      rescue (fun error => error.isInfrastructure && resolver.policy == .treatAsAbsent)
        (resolver.layer.getOverride scope) := by
  unfold Resolver.lookupOverride rescue
  refine congrArg (_ >>= ·) (funext fun outcome => ?_)
  cases outcome with
  | ok found => rfl
  | error error => rfl

/-- An attempt that the guard refuses. -/
def forbid (α : Type) (key : String) : Operation α := do
  Operation.count ⟨.forbiddenAttempts, []⟩
  throw (.forbidden key)

/-- A property of the reads of a layer, and of operations in a row if it is one of each. -/
structure CarriesReads (holds : {α : Type} → Operation α → Prop) : Prop where
  returns : ∀ {α : Type} (value : α), holds (pure value)
  follows : ∀ {α β : Type} {first : Operation α} {next : α → Operation β},
    holds first → (∀ value, holds (next value)) → holds (first >>= next)
  rescues : ∀ {α : Type} {operation : Operation (Option α)} {excuses : ServiceError → Bool},
    (∀ error, excuses error = true → error.isInfrastructure = true) →
      holds operation → holds (rescue excuses operation)
  asks : ∀ request : Request, request.isAccountable = false → holds (Operation.ask request)
  getFlag : ∀ (layer : Layer) (environment key : String), holds (layer.getFlag environment key)
  getOverrideAt : ∀ (layer : Layer) (scope : Scope) (now : Instant),
    holds (layer.getOverrideAt scope now)

/-- A property of all that deeds are made of, and of operations in a row if it is one of each. -/
structure Carries (holds : {α : Type} → Operation α → Prop) : Prop extends
    CarriesReads holds where
  refuses : ∀ {α : Type} (cause : ValidationError),
    holds (throw (.validation cause) : Operation α)
  forbids : ∀ {α : Type} (key : String), holds (forbid α key)
  writeFlag : ∀ (layer : Layer) (write : FlagWrite) (expected : Option Int64),
    holds (layer.writeFlag write expected)
  upsertOverride : ∀ (layer : Layer) (scope : Scope) (value : Bool) (expiresAt : Option Instant),
    holds (layer.upsertOverride scope value expiresAt)
  clearOverride : ∀ (layer : Layer) (scope : Scope), holds (layer.clearOverride scope)
  sweep : ∀ (now : Instant) (limit : Nat), holds (Layer.sweep now limit)
  resolves : ∀ (resolver : Resolver) (environment key : String) (tenantId userId : Option String)
    (context : Context), holds (resolver.decide environment key tenantId userId context) →
      holds (resolver.resolve environment key tenantId userId context)

namespace CarriesReads

variable {holds : {α : Type} → Operation α → Prop} (carries : CarriesReads holds)
include carries

theorem getOverride (layer : Layer) (scope : Scope) : holds (layer.getOverride scope) :=
  carries.follows (carries.asks .readClock rfl) fun now => carries.getOverrideAt layer scope now

theorem lookupTier (resolver : Resolver) (scope? : Option Scope) :
    holds (resolver.lookupTier scope?) := by
  cases scope? with
  | none => exact carries.returns none
  | some scope =>
      rw [Resolver.lookupTier, lookupOverride_eq_rescue]
      exact carries.rescues (fun _ excused => (Bool.and_eq_true_iff.mp excused).1)
        (carries.getOverride resolver.layer scope)

/-- A decision is reads of the tiers in a row. -/
theorem decide (resolver : Resolver) (environment key : String)
    (tenantId userId : Option String) (context : Context) :
    holds (resolver.decide environment key tenantId userId context) := by
  refine carries.follows (carries.lookupTier resolver _) fun user => ?_
  cases user with
  | some found => exact carries.returns _
  | none =>
      refine carries.follows (carries.lookupTier resolver _) fun tenant => ?_
      cases tenant with
      | some found => exact carries.returns _
      | none =>
          exact carries.follows (carries.getFlag resolver.layer environment key) fun _ =>
            carries.follows (carries.asks .readClock rfl) fun _ => carries.returns _

end CarriesReads

namespace Carries

variable {holds : {α : Type} → Operation α → Prop} (carries : Carries holds)
include carries

theorem require (checked : Except ValidationError Unit) : holds (Operation.require checked) := by
  cases checked with
  | ok value => exact carries.returns ()
  | error cause => exact carries.refuses cause

theorem resolve (resolver : Resolver) (environment key : String)
    (tenantId userId : Option String) (context : Context) :
    holds (resolver.resolve environment key tenantId userId context) :=
  carries.resolves _ _ _ _ _ _ (carries.decide _ _ _ _ _ _)

/-! ## Services -/

theorem resolveAll (evaluator : Evaluator) (environment : String) (context : Context)
    (keys : List String) : holds (evaluator.resolveAll environment context keys) := by
  induction keys with
  | nil => exact carries.returns []
  | cons key rest inductionHypothesis =>
      exact carries.follows (carries.resolve _ _ _ _ _ _) fun _ =>
        carries.follows inductionHypothesis fun _ => carries.returns _

theorem dispatch (records : List Exposure) : holds (Evaluator.dispatch records) := by
  refine carries.follows (carries.asks (.logExposures records) rfl)
    fun (logged : Except ServiceError Unit) => ?_
  cases logged with
  | ok value => exact carries.asks (.count ⟨.exposureRecordsSent, []⟩ records.length) rfl
  | error error => exact carries.asks (.count ⟨.exposureFailures, []⟩ 1) rfl

theorem evaluate (evaluator : Evaluator) (environment? : Option String) (keys : List String)
    (context : Context) : holds (evaluator.evaluate environment? keys context) := by
  refine carries.follows (carries.require _) fun _ => ?_
  refine carries.follows (carries.asks (.observeBatch _) rfl) fun _ => ?_
  refine carries.follows (carries.asks .readClock rfl) fun _ => ?_
  refine carries.follows (carries.resolveAll _ _ _ _) fun _ => ?_
  exact carries.follows (carries.dispatch _) fun _ => carries.returns _

theorem authorize (service : Service) (scope : Scope) (administrator : Bool) :
    holds (service.authorize scope administrator) := by
  unfold Service.authorize
  rw [Guard.check_eq]
  split
  · next error refused =>
      split at refused
      · cases refused
        exact carries.forbids scope.key
      · cases refused
  · exact carries.require scope.check

/-- Whatever is asked of a service. -/
theorem task (service : Service) (task : Guarding.Task) : holds (task.operation service) := by
  cases task with
  | writeFlag write expected =>
      exact carries.follows (carries.require _) fun _ => carries.writeFlag _ write expected
  | getFlag environment key =>
      exact carries.follows (carries.require _) fun _ =>
        carries.follows (carries.require _) fun _ => carries.getFlag _ environment key
  | setOverride scope value expiresAt administrator =>
      exact carries.follows (carries.authorize service scope administrator) fun _ =>
        carries.upsertOverride _ scope value expiresAt
  | patchOverride scope patch administrator =>
      refine carries.follows (carries.authorize service scope administrator) fun _ => ?_
      refine carries.follows (carries.getOverride _ scope) fun current => ?_
      cases patch.apply current with
      | none => exact carries.returns none
      | some next =>
          exact carries.follows (carries.upsertOverride _ scope next.value next.expiresAt)
            fun stored => carries.returns (some stored)
  | clearOverride scope administrator =>
      exact carries.follows (carries.authorize service scope administrator) fun _ =>
        carries.clearOverride _ scope
  | getOverride scope =>
      exact carries.follows (carries.require _) fun _ => carries.getOverride _ scope
  | evaluate environment? keys context => exact carries.evaluate _ environment? keys context
  | evaluateValues environment? keys context =>
      exact carries.follows (carries.evaluate _ environment? keys context) fun _ =>
        carries.returns _
  | sweep now limit => exact carries.sweep now limit

/-- Whatever is asked of a layer. -/
theorem work (layer : Layer) (task : Layer.Task) : holds (task.operation layer) := by
  cases task with
  | getFlag environment key => exact carries.getFlag layer environment key
  | getOverride scope => exact carries.getOverride layer scope
  | getOverrideAt scope now => exact carries.getOverrideAt layer scope now
  | writeFlag write expected => exact carries.writeFlag layer write expected
  | upsertOverride scope value expiresAt =>
      exact carries.upsertOverride layer scope value expiresAt
  | clearOverride scope => exact carries.clearOverride layer scope

/-- Whatever a caller asks for. -/
theorem deed (deed : Deed) : holds deed.operation := by
  cases deed with
  | work layer task => exact carries.work layer task
  | resolve resolver environment key tenantId userId context =>
      exact carries.resolve resolver environment key tenantId userId context
  | serve service task => exact carries.task service task

end Carries

end Switchboard.Accounting
