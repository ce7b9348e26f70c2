import Switchboard.Exposure.Record
import Switchboard.ServiceError

namespace Switchboard

/-!
# Queue of exposure records

Records wait in a bounded queue until they are sent in chunks.  A full queue gives
up its oldest record for a new one.  A permit, of which there is at most one, wakes
who sends: it is given when enough records wait and when the queue is shut down.
-/

/-- The sizes and the interval, in milliseconds, by which records are sent. -/
structure QueueSettings where
  maxBatchSize : Nat := 100
  flushInterval : Nat := 10000
  maxQueueSize : Nat := 10000
  deriving DecidableEq, Repr

namespace QueueSettings

/-- The number of records of a chunk; no chunk is empty. -/
def chunkSize (settings : QueueSettings) : Nat :=
  max 1 settings.maxBatchSize

/-- The number of records that may wait; there is room for one. -/
def room (settings : QueueSettings) : Nat :=
  max 1 settings.maxQueueSize

/-- The interval between two sendings; it is never empty. -/
def interval (settings : QueueSettings) : Nat :=
  max 1 settings.flushInterval

end QueueSettings

/-- The records that wait, whether the queue is shut down, and the permit. -/
structure ExposureQueue where
  settings : QueueSettings
  records : List Exposure := []
  isShutdown : Bool := false
  permit : Bool := false
  deriving DecidableEq, Repr

namespace ExposureQueue

/-- Let a record wait; the number of records given up for it is one or none. -/
def push (queue : ExposureQueue) (record : Exposure) : Nat × ExposureQueue :=
  if queue.settings.room ≤ queue.records.length then
    (1, { queue with records := queue.records.drop 1 ++ [record] })
  else
    (0, { queue with records := queue.records ++ [record] })

/-- Let records wait; the number of records given up for them. -/
def pushAll (queue : ExposureQueue) : List Exposure → Nat × ExposureQueue
  | [] => (0, queue)
  | record :: rest =>
      let (dropped, queue) := queue.push record
      let (more, queue) := queue.pushAll rest
      (dropped + more, queue)

/-- Give the permit. -/
def notify (queue : ExposureQueue) : ExposureQueue :=
  { queue with permit := true }

/-- Take the permit. -/
def takePermit (queue : ExposureQueue) : ExposureQueue :=
  { queue with permit := false }

/-- Give the permit where enough records wait. -/
def notifyIfFull (queue : ExposureQueue) : ExposureQueue :=
  if queue.settings.maxBatchSize ≤ queue.records.length then queue.notify else queue

/-- Accept a batch, unless the queue is shut down: the number of records given up for it. -/
def accept
    (queue : ExposureQueue)
    (batch : List Exposure) :
    Except ServiceError Nat × ExposureQueue :=
  if queue.isShutdown then
    (.error (.internal "exposure sink is shut down"), queue)
  else
    let (dropped, queue) := queue.pushAll batch
    (.ok dropped, queue.notifyIfFull)

/-- Take no more records. -/
def shutdown (queue : ExposureQueue) : ExposureQueue :=
  { queue with isShutdown := true }.notify

/-- Cut a list into chunks; only the last may be shorter. -/
def chunks (size : Nat) (records : List Exposure) : List (List Exposure) :=
  match records with
  | [] => []
  | first :: rest =>
      (first :: rest.take (size - 1)) :: chunks size (rest.drop (size - 1))
termination_by records.length

/-- Take all records out, in the chunks in which they are sent. -/
def drain (queue : ExposureQueue) : List (List Exposure) × ExposureQueue :=
  (chunks queue.settings.chunkSize queue.records, { queue with records := [] })

end ExposureQueue

/-- How sending went: the number of chunks that failed, and the first failure. -/
structure SendReport where
  failures : Nat := 0
  firstError : Option ServiceError := none
  deriving DecidableEq, Repr

namespace SendReport

/-- The report after one more chunk. -/
def add (report : SendReport) : Except ServiceError Unit → SendReport
  | .ok () => report
  | .error error => ⟨report.failures + 1, report.firstError.or (some error)⟩

/-- The report as the result of a flush. -/
def result (report : SendReport) : Except ServiceError Unit :=
  match report.firstError with
  | none => .ok ()
  | some error => .error error

end SendReport

/-- Send chunks one after the other, also after a failure. -/
def sendChunks
    (send : List Exposure → State → Except ServiceError Unit × State)
    (report : SendReport)
    (state : State) :
    List (List Exposure) → SendReport × State
  | [] => (report, state)
  | chunk :: rest =>
      let (outcome, state) := send chunk state
      sendChunks send (report.add outcome) state rest

end Switchboard
