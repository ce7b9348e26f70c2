import Switchboard.ServiceError
import Switchboard.Store.Exposures

namespace Switchboard

/-!
# Destinations of exposure records

Where a batch of records ends up: nowhere, in the trace of events, in a recording
that can be inspected, in a table, or with a backend that is out of reach.
-/

/-- A place that takes batches. -/
inductive Destination where
  | discard
  | trace
  | record
  | table
  | unavailable
  deriving DecidableEq, Repr

/-- What the destinations have taken, the oldest first. -/
structure Delivered where
  batches : List (List Exposure) := []
  traced : List Exposure := []
  table : ExposureTable := {}
  deriving DecidableEq, Repr

namespace Destination

/-- Hand a batch to a destination. -/
def deliver
    (destination : Destination)
    (batch : List Exposure)
    (delivered : Delivered) :
    Except ServiceError Unit × Delivered :=
  match destination with
  | .discard => (.ok (), delivered)
  | .trace => (.ok (), { delivered with traced := delivered.traced ++ batch })
  | .record => (.ok (), { delivered with batches := delivered.batches ++ [batch] })
  | .table => (.ok (), { delivered with table := delivered.table.appendAll batch })
  | .unavailable => (.error (.internal "analytics backend unavailable"), delivered)

end Destination

end Switchboard
