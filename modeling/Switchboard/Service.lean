import Switchboard.Evaluator
import Switchboard.Guard

namespace Switchboard

/-!
# Service

What callers may ask for: evaluation, versioned writes of flags, and changes of
overrides, which the guard and the validation see before anything is read or
written.
-/

/-- The parts of a service that decide something. -/
structure Service where
  evaluator : Evaluator
  guard : Guard
  deriving DecidableEq, Repr

namespace Service

/-- The resolver of the service. -/
def resolver (service : Service) : Resolver :=
  service.evaluator.resolver

/-- The cached storage of the service. -/
def layer (service : Service) : Layer :=
  service.evaluator.resolver.layer

/-- Write a flag whose version is the expected one. -/
def writeFlag (service : Service) (write : FlagWrite) (expected : Option Int64) :
    Operation Flag := do
  Operation.require write.check
  service.layer.writeFlag write expected

/-- The flag of an environment and a key. -/
def getFlag (service : Service) (environment key : String) : Operation (Option Flag) := do
  Operation.require (checkEnvironment environment)
  Operation.require (checkFlagKey key)
  service.layer.getFlag environment key

/-- Refuse a change of a guarded override, then one of an invalid scope. -/
def authorize (service : Service) (scope : Scope) (administrator : Bool) : Operation Unit := do
  match service.guard.check scope.key administrator with
  | .error error =>
      Operation.count ⟨.forbiddenAttempts, []⟩
      throw error
  | .ok () => Operation.require scope.check

/-- What the guard refuses is counted and fails, and nothing that would follow is asked for. -/
theorem run_of_unauthorized {service : Service} {scope : Scope} {administrator : Bool}
    {error : ServiceError}
    (refused : service.guard.check scope.key administrator = .error error)
    (next : Unit → Operation α) :
    (service.authorize scope administrator >>= next).run =
      .step (.count ⟨.forbiddenAttempts, []⟩ 1) fun _ => .done (.error error) := by
  unfold authorize
  rw [refused]
  rfl

/-- Give the override of a scope a value. -/
def setOverride
    (service : Service)
    (scope : Scope)
    (value : Bool)
    (expiresAt : Option Instant)
    (administrator : Bool) :
    Operation Override := do
  service.authorize scope administrator
  service.layer.upsertOverride scope value expiresAt

/-- Change parts of an override; nothing is written where no value would result. -/
def patchOverride
    (service : Service)
    (scope : Scope)
    (patch : OverridePatch)
    (administrator : Bool) :
    Operation (Option Override) := do
  service.authorize scope administrator
  let current ← service.layer.getOverride scope
  match patch.apply current with
  | none => return none
  | some next =>
      let stored ← service.layer.upsertOverride scope next.value next.expiresAt
      return some stored

/-- Clear the override of a scope. -/
def clearOverride (service : Service) (scope : Scope) (administrator : Bool) :
    Operation Unit := do
  service.authorize scope administrator
  service.layer.clearOverride scope

/-- The value that the override of a scope has. -/
def getOverride (service : Service) (scope : Scope) : Operation (Option OverrideValue) := do
  Operation.require scope.check
  service.layer.getOverride scope

/-- The resolutions of the requested keys. -/
def evaluate
    (service : Service)
    (environment? : Option String)
    (keys : List String)
    (context : Context) :
    Operation (List (String × Resolution)) :=
  service.evaluator.evaluate environment? keys context

/-- The values of the requested keys. -/
def evaluateValues
    (service : Service)
    (environment? : Option String)
    (keys : List String)
    (context : Context) :
    Operation (List (String × Bool)) :=
  service.evaluator.evaluateValues environment? keys context

/-- Remove stored overrides that are cleared or expired, and count them. -/
def sweep (_service : Service) (now : Instant) (limit : Nat) : Operation Nat :=
  Layer.sweep now limit

end Service

end Switchboard
