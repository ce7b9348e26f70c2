import Switchboard.Proofs.Guarding.Refusals
import Switchboard.Proofs.Layer.Changes
import Switchboard.Proofs.Validity.Grammar

namespace Switchboard.Guarding

/-!
# Tasks and their terms

A task is checked before anything is asked for it, and one that passes asks the stores for no
more than what was checked.
-/

/-- A request that neither fills the cache nor writes what a caller describes. -/
def IsFree : Request → Prop
  | .call (.cacheSet ..) => False
  | .call (.applyFlagWrite ..) => False
  | .call (.upsertOverride ..) => False
  | _ => True

/-- A free request that leaves the overrides alone. -/
def IsMild : Request → Prop
  | .call (.clearOverride _) => False
  | .purge .. => False
  | request => IsFree request

theorem isFree_of_isMild {request : Request} (mild : IsMild request) : IsFree request := by
  unfold IsMild at mild
  split at mild
  · cases mild
  · cases mild
  · exact mild

theorem isMild_of_isInquiry {request : Request} (inquiry : request.IsInquiry) :
    IsMild request := by
  unfold Request.IsInquiry at inquiry
  split at inquiry <;> trivial

theorem isMild_of_isFollowUp {request : Request} (followUp : request.IsFollowUp) :
    IsMild request := by
  unfold Request.IsFollowUp at followUp
  split at followUp <;> trivial

theorem isFree_of_isInquiry {request : Request} (inquiry : request.IsInquiry) :
    IsFree request :=
  isFree_of_isMild (isMild_of_isInquiry inquiry)

/-- Terms under which a service works, as long as it is asked for no change of an override. -/
structure LetsSpare (terms : Terms) (service : Service) (fails : ServiceError → Prop) : Prop where
  mild : ∀ request, IsMild request → terms.asks request
  fills : terms.LetsFill service.layer
  wrong : terms.GoesWrongBy fails

/-- Terms under which a service works, whatever is asked of it but to write a flag. -/
structure LetsServe (terms : Terms) (service : Service) (fails : ServiceError → Prop) : Prop where
  free : ∀ request, IsFree request → terms.asks request
  fills : terms.LetsFill service.layer
  upserts : ∀ scope value expiresAt, scope.check = .ok () →
    terms.asks (.call (.upsertOverride scope value expiresAt))
  wrong : terms.GoesWrongBy fails
  forbidden : ∀ key, fails (.forbidden key)

namespace Task

/-- What is checked of a task. -/
def check (service : Service) : Task → Except ValidationError Unit
  | writeFlag write _ => write.check
  | getFlag environment key => do
      checkEnvironment environment
      checkFlagKey key
  | setOverride scope _ _ _ => scope.check
  | patchOverride scope _ _ => scope.check
  | clearOverride scope _ => scope.check
  | getOverride scope => scope.check
  | evaluate environment? keys _ =>
      Evaluator.check (environment?.getD service.evaluator.defaultEnvironment) keys
  | evaluateValues environment? keys _ =>
      Evaluator.check (environment?.getD service.evaluator.defaultEnvironment) keys
  | sweep .. => .ok ()

/-- What a caller may ask for. -/
def IsValid (service : Service) : Task → Prop
  | writeFlag write _ => write.IsValid
  | getFlag environment key => IsEnvironmentName environment ∧ IsKeyName key
  | setOverride scope _ _ _ => scope.IsValid
  | patchOverride scope _ _ => scope.IsValid
  | clearOverride scope _ => scope.IsValid
  | getOverride scope => scope.IsValid
  | evaluate environment? keys _ =>
      Evaluator.IsValid (environment?.getD service.evaluator.defaultEnvironment) keys
  | evaluateValues environment? keys _ =>
      Evaluator.IsValid (environment?.getD service.evaluator.defaultEnvironment) keys
  | sweep .. => True

/-- The checks refuse nothing that a caller may ask for, and everything else. -/
theorem check_eq_ok_iff {service : Service} {task : Task} :
    task.check service = .ok () ↔ task.IsValid service := by
  cases task with
  | writeFlag write expected => exact FlagWrite.check_eq_ok_iff
  | getFlag environment key =>
      unfold check IsValid
      rw [bind_eq_ok_iff, checkEnvironment_eq_ok_iff, checkFlagKey_eq_ok_iff]
  | setOverride scope value expiresAt administrator => exact Scope.check_eq_ok_iff
  | patchOverride scope patch administrator => exact Scope.check_eq_ok_iff
  | clearOverride scope administrator => exact Scope.check_eq_ok_iff
  | getOverride scope => exact Scope.check_eq_ok_iff
  | evaluate environment? keys context => exact Evaluator.check_eq_ok_iff
  | evaluateValues environment? keys context => exact Evaluator.check_eq_ok_iff
  | sweep now limit => exact iff_of_true rfl trivial

/-- Whether a task leaves the overrides alone. -/
def spares : Task → Bool
  | setOverride .. => false
  | patchOverride .. => false
  | clearOverride .. => false
  | sweep .. => false
  | _ => true

end Task

section Abiding

variable {terms : Terms} {service : Service} {fails : ServiceError → Prop}

private theorem checked_failing {checked : Except ValidationError Unit} {next : Operation α}
    (refuses : ∀ cause, checked = .error cause → fails (.validation cause))
    (goesOn : checked = .ok () → next.Abides terms (FailsOnlyBy fails)) :
    (Operation.require checked >>= fun _ => next).Abides terms (FailsOnlyBy fails) :=
  Operation.abides_bind (Operation.abides_require goesOn fun cause refused =>
    failsOnlyBy_error (refuses cause refused))

section Sparing

variable (lets : LetsSpare terms service fails)
include lets

theorem LetsSpare.inquires : terms.LetsInquire :=
  fun _ inquiry => lets.mild _ (isMild_of_isInquiry inquiry)

theorem LetsSpare.followsUp : terms.LetsFollowUp :=
  fun _ followUp => lets.mild _ (isMild_of_isFollowUp followUp)

private theorem resolveAll_failing (context : Context) (now : Instant) (environment : String)
    (keys : List String) :
    (service.evaluator.resolveAll environment (context.pinned now) keys).Abides terms
      (FailsOnlyBy fails) := by
  induction keys with
  | nil => exact Operation.abides_pure (failsOnlyBy_ok [])
  | cons key rest inductionHypothesis =>
      refine Operation.abides_bind_failing
        (Resolver.resolve_failing lets.inquires lets.fills lets.wrong rfl environment key
          context.tenantId context.userId) fun resolution => ?_
      exact Operation.abides_bind_failing inductionHypothesis fun later =>
        Operation.abides_pure (failsOnlyBy_ok _)

private theorem dispatch_failing (records : List Exposure) :
    (Evaluator.dispatch records).Abides terms (FailsOnlyBy fails) := by
  refine Operation.abides_bind (Operation.abides_ask (lets.mild _ trivial)
    fun (logged : Except ServiceError Unit) _ => ?_)
  cases logged with
  | ok value => exact Operation.abides_ask (lets.mild _ trivial) fun _ _ => failsOnlyBy_ok _
  | error error => exact Operation.abides_ask (lets.mild _ trivial) fun _ _ => failsOnlyBy_ok _

private theorem evaluate_failing {environment? : Option String} {keys : List String}
    (context : Context)
    (refuses : ∀ cause,
      Evaluator.check (environment?.getD service.evaluator.defaultEnvironment) keys =
        .error cause → fails (.validation cause)) :
    (service.evaluator.evaluate environment? keys context).Abides terms (FailsOnlyBy fails) := by
  refine checked_failing refuses fun _ => ?_
  refine Operation.abides_bind (Operation.abides_ask (lets.mild _ trivial) fun _ _ => ?_)
  refine Operation.abides_bind (Operation.abides_ask (lets.mild _ trivial)
    fun (now : Instant) _ => ?_)
  refine Operation.abides_bind_failing (resolveAll_failing lets context now _ _)
    fun resolutions => ?_
  exact Operation.abides_bind_failing (dispatch_failing lets _) fun _ =>
    Operation.abides_pure (failsOnlyBy_ok resolutions)

/-- A task that leaves the overrides alone asks no more than that lets it. -/
theorem Task.abides_of_spares (task : Task)
    (spares : task.spares = true)
    (writes : ∀ write expected, task = .writeFlag write expected → write.check = .ok () →
      terms.asks (.call (.applyFlagWrite write expected)))
    (refuses : ∀ cause, task.check service = .error cause → fails (.validation cause)) :
    (task.operation service).Abides terms (FailsOnlyBy fails) := by
  cases task with
  | writeFlag write expected =>
      exact checked_failing refuses fun passed =>
        Layer.writeFlag_failing lets.followsUp lets.wrong (writes write expected rfl passed)
  | getFlag environment key =>
      refine Operation.abides_bind (Operation.abides_require (fun named => ?_) fun cause refused =>
        failsOnlyBy_error (refuses cause ?_))
      · refine checked_failing (fun cause refused => refuses cause ?_) fun _ =>
          Layer.getFlag_failing lets.inquires lets.fills lets.wrong environment key
        rw [check, named]
        exact refused
      · rw [check, refused]
        rfl
  | setOverride scope value expiresAt administrator => cases spares
  | patchOverride scope patch administrator => cases spares
  | clearOverride scope administrator => cases spares
  | getOverride scope =>
      exact checked_failing refuses fun _ =>
        Layer.getOverride_failing lets.inquires lets.fills lets.wrong scope
  | evaluate environment? keys context => exact evaluate_failing lets context refuses
  | evaluateValues environment? keys context =>
      exact Operation.abides_bind_failing (evaluate_failing lets context refuses)
        fun resolutions => Operation.abides_pure (failsOnlyBy_ok _)
  | sweep now limit => cases spares

/-- A change of an override is authorized, or fails by what forbids it. -/
theorem authorized_failing {scope : Scope} {administrator : Bool} {next : Operation α}
    (forbidden : ∀ key, fails (.forbidden key))
    (refuses : ∀ cause, scope.check = .error cause → fails (.validation cause))
    (goesOn : scope.check = .ok () → next.Abides terms (FailsOnlyBy fails)) :
    (service.authorize scope administrator >>= fun _ => next).Abides terms
      (FailsOnlyBy fails) := by
  cases guarded : service.guard.check scope.key administrator with
  | error error =>
      show ((service.authorize scope administrator >>= fun _ => next).run).Abides terms _
      rw [Service.run_of_unauthorized guarded]
      refine ⟨lets.mild _ trivial, fun _ _ => failsOnlyBy_error ?_⟩
      rw [Guard.check_eq] at guarded
      split at guarded
      · cases guarded
        exact forbidden _
      · cases guarded
  | ok value =>
      unfold Service.authorize
      rw [guarded]
      exact checked_failing refuses goesOn

end Sparing

section Serving

variable (lets : LetsServe terms service fails)
include lets

theorem LetsServe.spares : LetsSpare terms service fails where
  mild _ mild := lets.free _ (isFree_of_isMild mild)
  fills := lets.fills
  wrong := lets.wrong

/-- A task asks what it may, and fails by its check or by what went wrong. -/
theorem Task.abides (task : Task)
    (writes : ∀ write expected, task = .writeFlag write expected → write.check = .ok () →
      terms.asks (.call (.applyFlagWrite write expected)))
    (refuses : ∀ cause, task.check service = .error cause → fails (.validation cause)) :
    (task.operation service).Abides terms (FailsOnlyBy fails) := by
  have spares := lets.spares
  cases task with
  | setOverride scope value expiresAt administrator =>
      exact authorized_failing spares lets.forbidden refuses fun passed =>
        Layer.upsertOverride_failing spares.followsUp lets.wrong (lets.upserts _ _ _ passed)
  | patchOverride scope patch administrator =>
      refine authorized_failing spares lets.forbidden refuses fun passed => ?_
      refine Operation.abides_bind_failing
        (Layer.getOverride_failing spares.inquires lets.fills lets.wrong scope) fun current => ?_
      cases patch.apply current with
      | none => exact Operation.abides_pure (failsOnlyBy_ok none)
      | some next =>
          exact Operation.abides_bind_failing
            (Layer.upsertOverride_failing spares.followsUp lets.wrong
              (lets.upserts _ _ _ passed))
            fun stored => Operation.abides_pure (failsOnlyBy_ok (some stored))
  | clearOverride scope administrator =>
      exact authorized_failing spares lets.forbidden refuses fun _ =>
        Layer.clearOverride_failing spares.followsUp lets.wrong (lets.free _ trivial)
  | sweep now limit =>
      exact Layer.sweep_failing lets.wrong (lets.free _ trivial) fun _ => lets.free _ trivial
  | writeFlag write expected => exact abides_of_spares spares _ rfl writes refuses
  | getFlag environment key => exact abides_of_spares spares _ rfl writes refuses
  | getOverride scope => exact abides_of_spares spares _ rfl writes refuses
  | evaluate environment? keys context => exact abides_of_spares spares _ rfl writes refuses
  | evaluateValues environment? keys context =>
      exact abides_of_spares spares _ rfl writes refuses

end Serving

end Abiding

end Switchboard.Guarding
