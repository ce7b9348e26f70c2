import Switchboard.Time.Instant

namespace Switchboard

/-!
# Evaluation contexts

What a caller tells about the one for whom a flag is evaluated.  Nothing of it is
ever stored.
-/

/-- The input of one evaluation; every part may be unknown. -/
structure Context where
  userId : Option String := none
  tenantId : Option String := none
  email : Option String := none
  country : Option String := none
  tenantTags : Option (List String) := none
  plan : Option String := none
  now : Option Instant := none
  deriving DecidableEq, Repr

namespace Context

/-- The subject of a rollout when neither user nor tenant is known. -/
def anonymousSubject : String :=
  "anon"

/-- The subject of a rollout: the user, else the tenant, else the anonymous one. -/
def subject (context : Context) : String :=
  (context.userId.or context.tenantId).getD anonymousSubject

/-- The instant of the evaluation when the clock shows `clock`. -/
def instantAt (context : Context) (clock : Instant) : Instant :=
  context.now.getD clock

/-- The context with an instant of its own: the one it has, else the given one. -/
def pinned (context : Context) (clock : Instant) : Context :=
  { context with now := some (context.instantAt clock) }

end Context

end Switchboard
