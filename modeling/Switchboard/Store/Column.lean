import Switchboard.ServiceError
import Switchboard.Time.Reader
import Switchboard.Time.Written

namespace Switchboard

/-!
# Stored columns

Rows keep instants as texts, and the reader of a row names the column in which it
finds none.
-/

/-- The instant of a column. -/
def storedInstant (column text : String) : Except ServiceError Instant :=
  match Instant.readStrict text with
  | some instant => .ok instant
  | none => .error (.internal ("Invalid " ++ column))

/-- The instant of a column that may be empty. -/
def storedOptionalInstant
    (column : String) :
    Option String → Except ServiceError (Option Instant)
  | none => .ok none
  | some text => (storedInstant column text).map some

end Switchboard
