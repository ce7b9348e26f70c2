import Switchboard.Targeting.Resolution

namespace Switchboard

/-!
# Exposure records

Who saw which value of a flag, when and why.  Records are only ever written.
-/

/-- The record of one evaluation. -/
structure Exposure where
  environment : String
  key : String
  value : Bool
  reason : Reason
  userId : Option String
  tenantId : Option String
  timestamp : Instant
  deriving DecidableEq, Repr

end Switchboard
