import Switchboard.Layer
import Switchboard.Targeting.Resolution

namespace Switchboard

/-!
# Resolution by tiers

The value of a flag comes from the override of the user, else from the one of the
tenant, else from the flag itself.  Tiers below the one that decides are not read.
-/

/-- What an override that cannot be read means. -/
inductive FailurePolicy where
  | propagate
  | treatAsAbsent
  deriving DecidableEq, Repr

namespace FailurePolicy

/-- The policy of a name. -/
def ofName? (name : String) : Option FailurePolicy :=
  if name = "propagate" then some .propagate
  else if name = "treat_as_absent" then some .treatAsAbsent
  else none

/-- The complaint about a name that no policy has. -/
def unknownName (name : String) : String :=
  "unknown override failure policy '" ++ name ++ "'"

end FailurePolicy

/-- A layer to read from, and a policy for overrides that cannot be read. -/
structure Resolver where
  layer : Layer
  policy : FailurePolicy
  deriving DecidableEq, Repr

namespace Resolver

/-- The override of a scope, or its absence where the policy takes failure for that. -/
def lookupOverride (resolver : Resolver) (scope : Scope) : Operation (Option OverrideValue) := do
  match ← (resolver.layer.getOverride scope).attempt with
  | .ok found => return found
  | .error error =>
      if error.isInfrastructure && resolver.policy == .treatAsAbsent then
        return none
      else
        throw error

/-- The override of the scope of somebody who may be unknown. -/
def lookupTier (resolver : Resolver) (scope : Option Scope) : Operation (Option OverrideValue) :=
  match scope with
  | none => return none
  | some scope => resolver.lookupOverride scope

/-- The resolution of a flag, not counted. -/
def decide
    (resolver : Resolver)
    (environment key : String)
    (tenantId userId : Option String)
    (context : Context) :
    Operation Resolution := do
  match ← resolver.lookupTier (userId.map (Scope.user environment key)) with
  | some found => return ⟨found.value, .userOverride⟩
  | none =>
      match ← resolver.lookupTier (tenantId.map (Scope.tenant environment key)) with
      | some found => return ⟨found.value, .tenantOverride⟩
      | none =>
          let flag? ← resolver.layer.getFlag environment key
          let clock : Instant ← Operation.ask .readClock
          return resolveFlag flag? context clock

/-- The resolution of a flag. -/
def resolve
    (resolver : Resolver)
    (environment key : String)
    (tenantId userId : Option String)
    (context : Context) :
    Operation Resolution := do
  let resolution ← resolver.decide environment key tenantId userId context
  Operation.count ⟨.evaluations, [resolution.reason.label]⟩
  return resolution

end Resolver

end Switchboard
