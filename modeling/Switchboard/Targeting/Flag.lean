import Switchboard.Targeting.Condition

namespace Switchboard

/-!
# Flags

A flag belongs to an environment, has a default value and an ordered list of
rules.  A rule gives its value where all its conditions hold.
-/

/-- A value for the contexts that pass all conditions; no conditions mean every context. -/
structure Rule where
  conditions : List Condition
  value : Bool
  deriving DecidableEq, Repr

namespace Rule

/-- Whether a context passes all conditions. -/
def holds (rule : Rule) (context : Context) (clock : Instant) : Bool :=
  rule.conditions.all fun condition => condition.holds context clock

end Rule

/-- A flag as readers see it; every write raises the version by one. -/
structure Flag where
  environment : String
  key : String
  enabledDefault : Bool
  rules : List Rule
  version : Int64
  lastEditorId : Option String
  createdAt : Instant
  updatedAt : Instant
  deriving DecidableEq, Repr

/-- What a writer gives; the store adds the version and the instants. -/
structure FlagWrite where
  environment : String
  key : String
  enabledDefault : Bool
  rules : List Rule
  lastEditorId : Option String
  deriving DecidableEq, Repr

namespace FlagWrite

/-- Refuse a write by its environment, then by its key, then by its first bad condition. -/
def check (write : FlagWrite) : Except ValidationError Unit := do
  checkEnvironment write.environment
  checkFlagKey write.key
  (write.rules.flatMap Rule.conditions).forM Condition.check

end FlagWrite

/-- The flags whose overrides only a platform administrator may change. -/
def platformOnlyFlags : List String :=
  ["platform.maintenance_mode", "platform.read_only", "platform.signups_enabled"]

end Switchboard
