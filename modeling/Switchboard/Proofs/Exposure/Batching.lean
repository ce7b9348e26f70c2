import Mathlib.Logic.Relation
import Switchboard.Exposure.Sink
import Switchboard.Proofs.Exposure.Ledger

namespace Switchboard

/-!
# Batching between its waits

The queue in front of a destination, with the calls that let records wait and the loop that
sends them, step by step: a step goes from one point at which a party waits to the next.
A call waits for the lock of the queue after it looked whether the queue is shut down.  The
loop waits for its timer or the permit, for the lock, and for the destination after each
chunk that it hands over.  Whoever has the lock waits for nothing until it is given back.
-/

/-- Where the loop waits. -/
inductive LoopPhase where
  | waiting
  /-- For the lock, to take all records out of the queue. -/
  | woken
  /-- For the destination, with the chunks that it has yet to be handed. -/
  | sending (report : SendReport) (chunks : List (List Exposure))
  | returned
  deriving DecidableEq, Repr

/-- The chunks that the loop has yet to hand over. -/
def LoopPhase.chunks : LoopPhase → List (List Exposure)
  | sending _ chunks => chunks
  | _ => []

/--
A queue, its loop and its calls.  Beside what they work with stands what became of each
accepted record, every chunk that the destination was handed, how many records had been
accepted when the loop last emptied the queue, and how many when it was first shut down.
-/
structure Batching where
  queue : ExposureQueue
  output : SinkOutput := {}
  phase : LoopPhase := .waiting
  calls : List (List Exposure) := []
  ledger : List LedgerEntry := []
  chunks : List (List Exposure) := []
  drained : Nat := 0
  closed : Option Nat := none
  deriving Repr

namespace Batching

/-- The loop looks whether the queue is shut down, and goes on or returns. -/
def looked (batching : Batching) : Batching :=
  { batching with phase := if batching.queue.isShutdown then .returned else .waiting }

/-- What happens between two waits. -/
inductive Step : Batching → Batching → Prop where
  /-- A call sees that the queue is shut down, and fails. -/
  | refuse {batching : Batching} (isShutdown : batching.queue.isShutdown = true) :
      Step batching batching
  /-- A call sees that the queue is not shut down, and waits for the lock. -/
  | call {batching : Batching} (batch : List Exposure)
      (isOpen : batching.queue.isShutdown = false) :
      Step batching { batching with calls := batching.calls ++ [batch] }
  /-- A call gets the lock, lets its records wait, and returns. -/
  | enter {batching : Batching} {earlier later : List (List Exposure)} (batch : List Exposure)
      (waits : batching.calls = earlier ++ batch :: later) :
      Step batching { batching with
        queue := (batching.queue.pushAll batch).2.notifyIfFull
        output := batching.output.count .exposureRecordsDropped (batching.queue.pushAll batch).1
        calls := earlier ++ later
        ledger := Ledger.enter batching.queue batching.ledger batch }
  | shutdown {batching : Batching} :
      Step batching { batching with
        queue := batching.queue.shutdown
        closed := batching.closed.or (some batching.ledger.length) }
  /-- The timer of the loop fires. -/
  | fire {batching : Batching} (waits : batching.phase = .waiting) :
      Step batching { batching with phase := .woken }
  /-- The loop takes the permit. -/
  | wake {batching : Batching} (waits : batching.phase = .waiting)
      (permit : batching.queue.permit = true) :
      Step batching { batching with queue := batching.queue.takePermit, phase := .woken }
  /-- The loop finds the queue empty, so that it waits for nothing until it has looked. -/
  | skip {batching : Batching} (woken : batching.phase = .woken)
      (empty : batching.queue.records = []) :
      Step batching
        (looked { batching with
          output := batching.output.count .exposureFailures 0
          drained := batching.ledger.length })
  /-- The loop empties the queue. -/
  | drain {batching : Batching} (woken : batching.phase = .woken)
      (holds : batching.queue.records ≠ []) :
      Step batching { batching with
        queue := batching.queue.drain.2
        phase := .sending {} batching.queue.drain.1
        ledger :=
          Ledger.turn .waiting .inFlight batching.queue.records.length batching.ledger
        drained := batching.ledger.length }
  /-- The loop hands the next chunk to the destination, which makes of it what it will. -/
  | send {batching : Batching} {report : SendReport} {chunk : List Exposure}
      {rest : List (List Exposure)} (outcome : Except ServiceError Unit) (delivered : Delivered)
      (sends : batching.phase = .sending report (chunk :: rest)) :
      Step batching { batching with
        output := { batching.output with delivered }
        phase := .sending (report.add outcome) rest
        ledger := Ledger.turn .inFlight .handed chunk.length batching.ledger
        chunks := batching.chunks ++ [chunk] }
  /-- The loop comes back from its last chunk. -/
  | finish {batching : Batching} {report : SendReport}
      (sent : batching.phase = .sending report []) :
      Step batching
        (looked { batching with
          output := batching.output.count .exposureFailures report.failures })

/-- Whatever happens in whatever order. -/
abbrev Run : Batching → Batching → Prop :=
  Relation.ReflTransGen Step

/-! ## Calls and rounds that nobody interrupts -/

variable {batching : Batching}

/-- A batch that is logged at once is a call that enters at once. -/
theorem log_is_run (batching : Batching) (batch : List Exposure) (destination : Destination)
    (loop : Option FlushLoop) :
    let logged := Sink.log ⟨destination, some batching.queue, loop⟩ batch batching.output
    ∃ later, Run batching later ∧ logged.2 = (⟨destination, some later.queue, loop⟩, later.output) ∧
      later.phase = batching.phase ∧ later.calls = batching.calls := by
  cases isShutdown : batching.queue.isShutdown with
  | true =>
      refine ⟨batching, .single (.refuse isShutdown), ?_, rfl, rfl⟩
      simp [Sink.log, ExposureQueue.accept, isShutdown]
  | false =>
      have called : Run batching { batching with calls := batching.calls ++ [batch] } :=
        .single (.call batch isShutdown)
      refine ⟨_, called.tail (.enter batch rfl), ?_, rfl, List.append_nil _⟩
      simp [Sink.log, ExposureQueue.accept, isShutdown]

/-- A shutdown is a step. -/
theorem shutdown_is_run (batching : Batching) (destination : Destination)
    (loop : Option FlushLoop) :
    ∃ later, Run batching later ∧
      Sink.shutdown ⟨destination, some batching.queue, loop⟩ =
        ⟨destination, some later.queue, loop⟩ ∧
          later.output = batching.output ∧ later.phase = batching.phase :=
  ⟨_, .single .shutdown, rfl, rfl, rfl⟩

/-- Chunks that are handed over one after the other. -/
theorem sends_are_run {report : SendReport} {chunks : List (List Exposure)}
    (destination : Destination)
    (sends : batching.phase = .sending report chunks) :
    let sent := sendChunks (fun chunk output => output.deliver destination chunk) report
      batching.output chunks
    ∃ later, Run batching later ∧ later.phase = .sending sent.1 [] ∧
      later.output = sent.2 ∧ later.queue = batching.queue ∧
        later.closed = batching.closed := by
  induction chunks generalizing batching report with
  | nil => exact ⟨batching, .refl, sends, rfl, rfl, rfl⟩
  | cons chunk rest inductionHypothesis =>
      rcases handed : destination.deliver chunk batching.output.delivered with ⟨outcome, delivered⟩
      obtain ⟨sent, first, phase, output, queue, closed⟩ : ∃ sent, Run batching sent ∧
          sent.phase = .sending (report.add outcome) rest ∧
            sent.output = { batching.output with delivered } ∧ sent.queue = batching.queue ∧
              sent.closed = batching.closed :=
        ⟨_, .single (.send outcome delivered sends), rfl, rfl, rfl, rfl⟩
      obtain ⟨later, run, ended, laterOutput, laterQueue, laterClosed⟩ :=
        inductionHypothesis phase
      have delivers : batching.output.deliver destination chunk = (outcome, sent.output) := by
        simp only [SinkOutput.deliver, handed, output]
      simp only [sendChunks, delivers]
      exact ⟨later, first.trans run, ended, laterOutput, laterQueue.trans queue,
        laterClosed.trans closed⟩

/-- From its waking to its look, the loop that nobody interrupts flushes the queue. -/
private theorem flush_is_run (destination : Destination) (loop : Option FlushLoop)
    (woken : batching.phase = .woken) :
    let flushed := Sink.flush ⟨destination, some batching.queue, loop⟩ batching.output
    ∃ later, Run batching later ∧
      flushed.2 = (⟨destination, some later.queue, loop⟩, later.output) ∧
        later.queue.isShutdown = batching.queue.isShutdown ∧
          later.phase = if batching.queue.isShutdown then .returned else .waiting := by
  by_cases empty : batching.queue.records = []
  · refine ⟨_, .single (.skip woken empty), ?_, rfl, rfl⟩
    have same : { batching.queue with records := [] } = batching.queue := by
      rw [← empty]
    simp [Sink.flush, ExposureQueue.drain, empty, ExposureQueue.chunks, sendChunks, looked, same]
  · obtain ⟨drained, drains, phase, drainedOutput, drainedQueue⟩ :
        ∃ drained, Run batching drained ∧
          drained.phase = .sending {} batching.queue.drain.1 ∧
            drained.output = batching.output ∧ drained.queue = batching.queue.drain.2 :=
      ⟨_, .single (.drain woken empty), rfl, rfl, rfl⟩
    obtain ⟨sent, sends, sentPhase, output, queue, -⟩ := sends_are_run destination phase
    rw [drainedOutput] at output sentPhase
    rw [drainedQueue] at queue
    refine ⟨_, (drains.trans sends).tail (.finish sentPhase), ?_, ?_, ?_⟩
    · simp [Sink.flush, looked, output, queue]
    · simp [looked, queue, ExposureQueue.drain]
    · simp [looked, queue, ExposureQueue.drain]

/-- A round of the loop that nobody interrupts is what the sink does at once. -/
theorem round_is_run (destination : Destination) (loop : Option FlushLoop) (clock : Nat)
    (waits : batching.phase = .waiting) :
    let rounded := Sink.round ⟨destination, some batching.queue, loop⟩ clock batching.output
    ∃ later, Run batching later ∧
      rounded = (⟨destination, some later.queue, some (Sink.rearm later.queue clock)⟩,
        later.output) ∧
        (later.phase = .returned ↔ (Sink.rearm later.queue clock).isDone = true) := by
  obtain ⟨woken, wakes, phase, queue, output⟩ : ∃ woken, Run batching woken ∧
      woken.phase = .woken ∧ woken.queue = batching.queue.takePermit ∧
        woken.output = batching.output := by
    cases permit : batching.queue.permit with
    | true => exact ⟨_, .single (.wake waits permit), rfl, rfl, rfl⟩
    | false =>
        refine ⟨_, .single (.fire waits), rfl, ?_, rfl⟩
        unfold ExposureQueue.takePermit
        rw [← permit]
  obtain ⟨later, flushes, flushed, isShutdown, ended⟩ := flush_is_run destination loop phase
  refine ⟨later, wakes.trans flushes, ?_, ?_⟩
  · rw [queue, output] at flushed
    unfold Sink.round
    simp only [Option.map_some, flushed]
  · rw [ended, ← isShutdown]
    cases closed : later.queue.isShutdown with
    | true => simp [Sink.rearm, closed]
    | false => simp [Sink.rearm, closed]

end Batching

end Switchboard
