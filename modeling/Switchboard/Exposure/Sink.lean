import Switchboard.Exposure.Destination
import Switchboard.Exposure.Queue
import Switchboard.Metrics.Basic

namespace Switchboard

/-!
# Exposure sinks

A sink hands batches to its destination at once, or lets them wait in a queue from
which they are sent on request or by a loop.  The loop sends when its timer fires
and when it gets the permit of the queue, and ends with the first sending after the
queue was shut down.
-/

/-- The instant at which the timer of the loop fires, and whether the loop has ended. -/
structure FlushLoop where
  deadline : Nat
  isDone : Bool := false
  deriving DecidableEq, Repr

/-- A destination, with or without a queue in front of it. -/
structure Sink where
  destination : Destination
  queue : Option ExposureQueue := none
  loop : Option FlushLoop := none
  deriving DecidableEq, Repr

/-- What a sink changes besides itself. -/
structure SinkOutput where
  delivered : Delivered := {}
  metrics : Metrics Nat := .empty
  deriving Repr

namespace SinkOutput

/-- Hand a batch to a destination. -/
def deliver
    (destination : Destination)
    (batch : List Exposure)
    (output : SinkOutput) :
    Except ServiceError Unit × SinkOutput :=
  let (outcome, delivered) := destination.deliver batch output.delivered
  (outcome, { output with delivered })

/-- Add an amount to a counter without labels. -/
def count (output : SinkOutput) (family : CounterFamily) (amount : Nat) : SinkOutput :=
  { output with metrics := output.metrics.add ⟨family, []⟩ amount }

/-- What is counted is not changed by what is delivered. -/
theorem sendChunks_deliver (destination : Destination) (report : SendReport)
    (output : SinkOutput) (chunks : List (List Exposure)) :
    sendChunks (fun chunk output => output.deliver destination chunk) report output chunks =
      ((sendChunks destination.deliver report output.delivered chunks).1,
        { output with
          delivered := (sendChunks destination.deliver report output.delivered chunks).2 }) := by
  induction chunks generalizing report output with
  | nil => rfl
  | cons chunk rest inductionHypothesis =>
      simp only [sendChunks]
      exact inductionHypothesis _ _

end SinkOutput

namespace Sink

/-- A sink without a queue. -/
def direct (destination : Destination) : Sink where
  destination := destination

/-- A sink with a queue that is sent on request only. -/
def queued (destination : Destination) (settings : QueueSettings) : Sink where
  destination := destination
  queue := some { settings }

/-- A sink with a queue and a loop that starts at an instant. -/
def looping (destination : Destination) (settings : QueueSettings) (clock : Nat) : Sink where
  destination := destination
  queue := some { settings }
  loop := some ⟨clock + settings.interval, false⟩

/-- Take a batch. -/
def log (sink : Sink) (batch : List Exposure) (output : SinkOutput) :
    Except ServiceError Unit × Sink × SinkOutput :=
  match sink.queue with
  | none =>
      let (outcome, output) := output.deliver sink.destination batch
      (outcome, sink, output)
  | some queue =>
      match queue.accept batch with
      | (.error error, queue) => (.error error, { sink with queue := some queue }, output)
      | (.ok dropped, queue) =>
          (.ok (), { sink with queue := some queue },
            output.count .exposureRecordsDropped dropped)

/-- Send everything that waits. -/
def flush (sink : Sink) (output : SinkOutput) :
    Except ServiceError Unit × Sink × SinkOutput :=
  match sink.queue with
  | none => (.ok (), sink, output)
  | some queue =>
      let (chunks, queue) := queue.drain
      let (report, output) :=
        sendChunks (fun chunk output => output.deliver sink.destination chunk) {} output chunks
      (report.result, { sink with queue := some queue },
        output.count .exposureFailures report.failures)

/-- Take no more batches. -/
def shutdown (sink : Sink) : Sink :=
  { sink with queue := sink.queue.map ExposureQueue.shutdown }

/-- Whether the loop has something to do. -/
def isDue (sink : Sink) (clock : Nat) : Bool :=
  match sink.queue, sink.loop with
  | some queue, some loop => !loop.isDone && (queue.permit || decide (loop.deadline ≤ clock))
  | _, _ => false

/-- The loop after a sending: ended where the queue is shut down, else with a new timer. -/
def rearm (queue : ExposureQueue) (clock : Nat) : FlushLoop :=
  ⟨clock + queue.settings.interval, queue.isShutdown⟩

/-- One round of the loop. -/
def round (sink : Sink) (clock : Nat) (output : SinkOutput) : Sink × SinkOutput :=
  let woken := { sink with queue := sink.queue.map ExposureQueue.takePermit }
  let (_, sent, output) := woken.flush output
  ({ sent with loop := sent.queue.map fun queue => rearm queue clock }, output)

/-- Let the loop run until it waits. -/
def settle (sink : Sink) (clock : Nat) (output : SinkOutput) : Sink × SinkOutput :=
  if sink.isDue clock then sink.round clock output else (sink, output)

end Sink

end Switchboard
