import Switchboard.Override.Identifier
import Switchboard.Override.Scope
import Switchboard.Time.Instant

namespace Switchboard

/-!
# Overrides

A forced value with an optional expiry.  The expiry is exclusive: at that very
instant the override is gone.  Deleted and expired overrides stay stored until
they are swept, and no reader sees them.
-/

/-- What readers see of an override. -/
structure OverrideValue where
  value : Bool
  expiresAt : Option Instant
  deriving DecidableEq, Repr

namespace OverrideValue

/-- Whether the value is still in force. -/
def isActive (state : OverrideValue) (now : Instant) : Bool :=
  state.expiresAt.all fun expiry => decide (now < expiry)

end OverrideValue

/-- A stored override. -/
structure Override where
  id : OverrideId
  scope : Scope
  value : Bool
  expiresAt : Option Instant
  deletedAt : Option Instant
  createdAt : Instant
  updatedAt : Instant
  deriving DecidableEq, Repr

namespace Override

/-- What readers see while the override is in force. -/
def state (override : Override) : OverrideValue :=
  ⟨override.value, override.expiresAt⟩

/-- Whether readers see the override: it is neither deleted nor expired. -/
def isActive (override : Override) (now : Instant) : Bool :=
  override.deletedAt.isNone && override.state.isActive now

end Override

/-- What a patch does to the expiry. -/
inductive ExpiryChange where
  | keep
  | set (expiresAt : Option Instant)
  deriving DecidableEq, Repr

/-- A change of some parts of an override. -/
structure OverridePatch where
  value : Option Bool := none
  expiry : ExpiryChange := .keep
  deriving DecidableEq, Repr

namespace OverridePatch

/-- The patch that sets every part. -/
def replace (value : Bool) (expiresAt : Option Instant) : OverridePatch :=
  ⟨some value, .set expiresAt⟩

/-- The expiry after the patch. -/
def expiryAfter (patch : OverridePatch) (current : Option OverrideValue) : Option Instant :=
  match patch.expiry with
  | .set expiresAt => expiresAt
  | .keep => current.bind OverrideValue.expiresAt

/-- The state after the patch, unless neither the patch nor the current state has a value. -/
def apply (patch : OverridePatch) (current : Option OverrideValue) : Option OverrideValue := do
  let value ← patch.value.or (current.map OverrideValue.value)
  return ⟨value, patch.expiryAfter current⟩

/-- A patch that sets every part does not look at the current state. -/
theorem apply_replace
    (value : Bool)
    (expiresAt : Option Instant)
    (current : Option OverrideValue) :
    (replace value expiresAt).apply current = some ⟨value, expiresAt⟩ := by
  cases current <;> rfl

end OverridePatch

end Switchboard
