import Switchboard.ServiceError
import Switchboard.Targeting.Flag

namespace Switchboard

/-!
# Platform guard

Overrides of some flags may be changed by platform administrators only.
-/

/-- The flags whose overrides are guarded. -/
structure Guard where
  keys : List String := platformOnlyFlags
  deriving DecidableEq, Repr

namespace Guard

/-- Whether a flag is guarded. -/
def isPlatformOnly (guard : Guard) (key : String) : Bool :=
  guard.keys.contains key

/-- Refuse to change an override of a guarded flag unless an administrator asks. -/
def check (guard : Guard) (key : String) (administrator : Bool) : Except ServiceError Unit :=
  if guard.isPlatformOnly key && !administrator then .error (.forbidden key) else .ok ()

/-- The flag is one of the guarded, and it is no administrator who asks. -/
def Refuses (guard : Guard) (key : String) (administrator : Bool) : Prop :=
  key ∈ guard.keys ∧ administrator = false

variable {guard : Guard} {key : String} {administrator : Bool}

instance : Decidable (guard.Refuses key administrator) :=
  inferInstanceAs (Decidable (key ∈ guard.keys ∧ administrator = false))

/-- What is refused is refused as forbidden, and all else passes. -/
theorem check_eq (guard : Guard) (key : String) (administrator : Bool) :
    guard.check key administrator =
      if guard.Refuses key administrator then .error (.forbidden key) else .ok () := by
  have same : (guard.isPlatformOnly key && !administrator) = true ↔
      guard.Refuses key administrator := by
    simp [isPlatformOnly, Refuses]
  simp only [check, same]

theorem check_of_refuses (refuses : guard.Refuses key administrator) :
    guard.check key administrator = .error (.forbidden key) := by
  rw [check_eq, if_pos refuses]

theorem check_of_not_refuses (allowed : ¬guard.Refuses key administrator) :
    guard.check key administrator = .ok () := by
  rw [check_eq, if_neg allowed]

end Guard

end Switchboard
