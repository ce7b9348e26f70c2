import Mathlib.Data.List.DropRight
import Switchboard.Proofs.Exposure.Shutdown

namespace Switchboard

/-!
# Conservation of exposure records

A queue in front of any inner sink, which may fail whenever it likes.  As long as it is not
shut down, a queue forgets no record and repeats none: what it accepted it dropped and counted,
or handed over once, or still has, and it never changes the order of what it keeps.  A flush
hands over everything in chunks, whatever becomes of them.  A sink with a queue and a
destination is such a queue, with its destination as the inner sink.
-/

/-- A chunk that an inner sink was handed, and what came of it. -/
structure Sending where
  chunk : List Exposure
  outcome : Except ServiceError Unit

/-- The failure of a sending. -/
def Sending.failure (sending : Sending) : Option ServiceError :=
  match sending.outcome with
  | .ok () => none
  | .error error => some error

/-- What an inner sink makes of a chunk, which may depend on all that it was handed before. -/
abbrev Inner : Type :=
  List Sending → List Exposure → Except ServiceError Unit

namespace Inner

/-- The state of a sink after what it was handed. -/
def replay (send : List Exposure → State → Except ServiceError Unit × State) (start : State)
    (sent : List Sending) : State :=
  sent.foldl (fun state sending => (send sending.chunk state).2) start

/-- A sink with a state of its own. -/
def ofState (send : List Exposure → State → Except ServiceError Unit × State) (start : State) :
    Inner :=
  fun sent chunk => (send chunk (replay send start sent)).1

/-- Hand a chunk over. -/
def hand (inner : Inner) (chunk : List Exposure) (sent : List Sending) :
    Except ServiceError Unit × List Sending :=
  (inner sent chunk, sent ++ [⟨chunk, inner sent chunk⟩])

end Inner

/-- A queue in front of an inner sink, with what it counts and what it handed over. -/
structure Front where
  queue : ExposureQueue
  metrics : Metrics Nat := .empty
  sent : List Sending := []

namespace Front

open Batching (droppedCounter)
open Ledger (having)

/-- The counter of the chunks that failed. -/
def failuresCounter : Counter :=
  ⟨.exposureFailures, []⟩

/-- Take a batch. -/
def log (front : Front) (batch : List Exposure) : Except ServiceError Unit × Front :=
  match front.queue.accept batch with
  | (.error error, queue) => (.error error, { front with queue })
  | (.ok dropped, queue) =>
      (.ok (), { front with queue, metrics := front.metrics.add droppedCounter dropped })

/-- Send everything that waits. -/
def flush (inner : Inner) (front : Front) : Except ServiceError Unit × Front :=
  let (chunks, queue) := front.queue.drain
  let (report, sent) := sendChunks inner.hand {} front.sent chunks
  (report.result, ⟨queue, front.metrics.add failuresCounter report.failures, sent⟩)

/-- What batches and flushes lead to, with all records that were accepted. -/
inductive Ran (settings : QueueSettings) (inner : Inner) : List Exposure → Front → Prop where
  | start : Ran settings inner [] { queue := { settings } }
  | log {accepted : List Exposure} {front : Front} (batch : List Exposure) :
      Ran settings inner accepted front →
        Ran settings inner (accepted ++ batch) (front.log batch).2
  | flush {accepted : List Exposure} {front : Front} :
      Ran settings inner accepted front → Ran settings inner accepted (front.flush inner).2

variable {settings : QueueSettings} {inner : Inner} {accepted : List Exposure} {front : Front}

/-! ## Sinks of destinations -/

/-- The sink with a queue and a destination. -/
def sink (front : Front) (destination : Destination) (loop : Option FlushLoop) : Sink :=
  ⟨destination, some front.queue, loop⟩

/-- What the destination has taken, and what is counted. -/
def output (front : Front) (destination : Destination) (delivered : Delivered) : SinkOutput :=
  ⟨Inner.replay destination.deliver delivered front.sent, front.metrics⟩

/-- A sink takes a batch as a queue in front of its destination does. -/
theorem log_sink (front : Front) (destination : Destination) (loop : Option FlushLoop)
    (delivered : Delivered) (batch : List Exposure) :
    (front.sink destination loop).log batch (front.output destination delivered) =
      ((front.log batch).1, (front.log batch).2.sink destination loop,
        (front.log batch).2.output destination delivered) := by
  simp only [Sink.log, sink, log]
  rcases front.queue.accept batch with ⟨outcome, queue⟩
  cases outcome with
  | ok dropped => rfl
  | error error => rfl

/-- Chunks are handed to a state as they are to the sink with that state. -/
private theorem sendChunks_ofState
    (send : List Exposure → State → Except ServiceError Unit × State) (start : State)
    (report : SendReport) (sent : List Sending) (chunks : List (List Exposure)) :
    sendChunks send report (Inner.replay send start sent) chunks =
      ((sendChunks (Inner.ofState send start).hand report sent chunks).1,
        Inner.replay send start
          (sendChunks (Inner.ofState send start).hand report sent chunks).2) := by
  induction chunks generalizing report sent with
  | nil => rfl
  | cons chunk rest inductionHypothesis =>
      have handed : Inner.replay send start ((Inner.ofState send start).hand chunk sent).2 =
          (send chunk (Inner.replay send start sent)).2 := by
        simp [Inner.replay, Inner.hand]
      simp only [sendChunks]
      rw [← handed]
      exact inductionHypothesis _ _

/-- A sink sends what waits as a queue in front of its destination does. -/
theorem flush_sink (front : Front) (destination : Destination) (loop : Option FlushLoop)
    (delivered : Delivered) :
    let flushed := front.flush (.ofState destination.deliver delivered)
    (front.sink destination loop).flush (front.output destination delivered) =
      (flushed.1, flushed.2.sink destination loop, flushed.2.output destination delivered) := by
  have sends := sendChunks_ofState destination.deliver delivered {} front.sent
    front.queue.drain.1
  simp only [Sink.flush, sink, flush, SinkOutput.sendChunks_deliver, output, sends]
  rfl

/-! ## Queues -/

/-- A batch joins a queue at its end, and what has no room leaves at the front. -/
theorem pushAll_eq {queue : ExposureQueue} (bounded : queue.records.length ≤ queue.settings.room)
    (batch : List Exposure) :
    queue.pushAll batch =
      ((queue.records ++ batch).length - queue.settings.room,
        { queue with records := (queue.records ++ batch).rtake queue.settings.room }) := by
  induction batch generalizing queue with
  | nil =>
      have fits : queue.records.length - queue.settings.room = 0 := by omega
      simp [ExposureQueue.pushAll, List.rtake, fits]
  | cons record rest inductionHypothesis =>
      have positive : 1 ≤ queue.settings.room := Nat.le_max_left ..
      by_cases full : queue.settings.room ≤ queue.records.length
      · have pushes : queue.push record =
            (1, { queue with records := queue.records.drop 1 ++ [record] }) := if_pos full
        have stillBounded : (queue.records.drop 1 ++ [record]).length ≤ queue.settings.room := by
          simp only [List.length_append, List.length_drop, List.length_singleton]
          omega
        have later := @inductionHypothesis
          { queue with records := queue.records.drop 1 ++ [record] } stillBounded
        have shifted : queue.records.drop 1 ++ [record] ++ rest =
            (queue.records ++ record :: rest).drop 1 := by
          rw [List.append_assoc, List.singleton_append,
            List.drop_append_of_le_length (Nat.le_trans positive full)]
        have longer : queue.settings.room < (queue.records ++ record :: rest).length := by
          simp only [List.length_append, List.length_cons]
          omega
        have excess : 1 + ((queue.records ++ record :: rest).length - 1 - queue.settings.room) =
            (queue.records ++ record :: rest).length - queue.settings.room := by
          omega
        rw [ExposureQueue.pushAll, pushes]
        simp only [later, shifted, List.rtake, List.drop_drop, List.length_drop, excess]
      · have pushes : queue.push record =
            (0, { queue with records := queue.records ++ [record] }) := if_neg full
        have stillBounded : (queue.records ++ [record]).length ≤ queue.settings.room := by
          rw [List.length_append, List.length_singleton]
          omega
        have later := @inductionHypothesis
          { queue with records := queue.records ++ [record] } stillBounded
        rw [ExposureQueue.pushAll, pushes]
        simp only [later, List.append_assoc, List.singleton_append, Nat.zero_add]

/-- The chunks of a list have the same size, but for the last, which may be shorter. -/
theorem length_of_mem_chunks {size : Nat} (positive : 0 < size) (records : List Exposure) :
    (∀ chunk ∈ ExposureQueue.chunks size records, chunk ≠ [] ∧ chunk.length ≤ size) ∧
      ∀ chunk ∈ (ExposureQueue.chunks size records).dropLast, chunk.length = size := by
  induction records using ExposureQueue.chunks.induct size with
  | case1 => simp [ExposureQueue.chunks]
  | case2 first rest inductionHypothesis =>
      obtain ⟨each, full⟩ := inductionHypothesis
      rw [ExposureQueue.chunks]
      constructor
      · refine List.forall_mem_cons.mpr ⟨⟨List.cons_ne_nil _ _, ?_⟩, each⟩
        rw [List.length_cons, List.length_take]
        omega
      · cases more : ExposureQueue.chunks size (rest.drop (size - 1)) with
        | nil => simp
        | cons second others =>
            rw [more] at full
            rw [List.dropLast_cons_cons]
            refine List.forall_mem_cons.mpr ⟨?_, full⟩
            have remains : rest.drop (size - 1) ≠ [] := by
              intro nothing
              rw [nothing, ExposureQueue.chunks] at more
              cases more
            have long := List.length_pos_iff.mpr remains
            rw [List.length_drop] at long
            rw [List.length_cons, List.length_take]
            omega

/-- An inner sink that was handed some chunks answered each, knowing those before it. -/
def Answered (inner : Inner) (sent new : List Sending) : Prop :=
  ∀ earlier sending later, new = earlier ++ sending :: later →
    sending.outcome = inner (sent ++ earlier) sending.chunk

/-- All chunks are handed over, and the report has the number of failures and the first one. -/
theorem sendChunks_hand (inner : Inner) (report : SendReport) (sent : List Sending)
    (chunks : List (List Exposure)) :
    ∃ new, (sendChunks inner.hand report sent chunks).2 = sent ++ new ∧
      new.map Sending.chunk = chunks ∧ Answered inner sent new ∧
        (sendChunks inner.hand report sent chunks).1 =
          ⟨report.failures + (new.filterMap Sending.failure).length,
            report.firstError.or (new.filterMap Sending.failure).head?⟩ := by
  induction chunks generalizing report sent with
  | nil => exact ⟨[], (List.append_nil _).symm, rfl, by simp [Answered], by simp [sendChunks]⟩
  | cons chunk rest inductionHypothesis =>
      obtain ⟨new, sends, isRest, answered, reports⟩ :=
        inductionHypothesis (report.add (inner sent chunk)) (inner.hand chunk sent).2
      refine ⟨⟨chunk, inner sent chunk⟩ :: new, ?_, by rw [List.map_cons, isRest], ?_, ?_⟩
      · simp only [sendChunks]
        refine sends.trans ?_
        simp [Inner.hand]
      · intro earlier sending later same
        cases earlier with
        | nil =>
            cases same
            rw [List.append_nil]
        | cons first earlier =>
            obtain ⟨rfl, isNew⟩ := List.cons.inj same
            rw [answered earlier sending later isNew]
            simp [Inner.hand]
      · simp only [sendChunks]
        refine reports.trans ?_
        cases outcome : inner sent chunk with
        | ok done =>
            have succeeds : Sending.failure ⟨chunk, .ok done⟩ = none := rfl
            rw [List.filterMap_cons_none succeeds]
            rfl
        | error error =>
            have fails : Sending.failure ⟨chunk, .error error⟩ = some error := rfl
            rw [List.filterMap_cons_some fails]
            simp only [SendReport.add, List.length_cons, List.head?_cons, Option.or_assoc,
              Option.some_or, SendReport.mk.injEq, and_true]
            omega

/-- A report gives its first failure back. -/
theorem result_eq_error_iff {report : SendReport} {error : ServiceError} :
    report.result = .error error ↔ report.firstError = some error := by
  unfold SendReport.result
  cases report.firstError with
  | none => simp
  | some first => simp

/-! ## Where the records are -/

/-- The records that the inner sink was handed, in the order in which it got them. -/
def handed (front : Front) : List Exposure :=
  front.sent.flatMap Sending.chunk

/--
Every accepted record waits, was dropped and counted, or was handed over, once; and what was
handed over and what waits are in the order in which they were accepted.
-/
structure Accounts (accepted : List Exposure) (front : Front) (ledger : List LedgerEntry) :
    Prop where
  accepted : ledger.map LedgerEntry.record = accepted
  waiting : having .waiting ledger = front.queue.records
  inFlight : having .inFlight ledger = []
  handed : having .handed ledger = front.handed
  dropped : (having .dropped ledger).length = front.metrics.amount droppedCounter
  ordered : (ledger.filter fun entry => entry.fate ≠ .dropped).map LedgerEntry.record =
    front.handed ++ front.queue.records

/-- A batch was taken: the queue has the last records that it has room for. -/
structure Logs (before : Front) (batch : List Exposure)
    (logged : Except ServiceError Unit × Front) : Prop where
  outcome : logged.1 = .ok ()
  records : logged.2.queue.records =
    (before.queue.records ++ batch).rtake before.queue.settings.room
  sent : logged.2.sent = before.sent
  failures : logged.2.metrics.amount failuresCounter = before.metrics.amount failuresCounter

/--
Everything that waited was handed over in chunks, all of the same size but for the last, each
failure was counted, and the first one was given back.
-/
structure Flushes (inner : Inner) (before : Front)
    (flushed : Except ServiceError Unit × Front) (new : List Sending) : Prop where
  records : flushed.2.queue.records = []
  sent : flushed.2.sent = before.sent ++ new
  answered : Answered inner before.sent new
  all : new.flatMap Sending.chunk = before.queue.records
  sizes : ∀ sending ∈ new,
    sending.chunk ≠ [] ∧ sending.chunk.length ≤ before.queue.settings.chunkSize
  full : ∀ sending ∈ new.dropLast, sending.chunk.length = before.queue.settings.chunkSize
  failures : flushed.2.metrics.amount failuresCounter =
    before.metrics.amount failuresCounter + (new.filterMap Sending.failure).length
  outcome : ∀ error, flushed.1 = .error error ↔
    (new.filterMap Sending.failure).head? = some error
  dropped : flushed.2.metrics.amount droppedCounter = before.metrics.amount droppedCounter

/-- The queue is open and within its bounds, and what left it was handed over or dropped. -/
structure IsConserved (settings : QueueSettings) (accepted : List Exposure) (front : Front)
    (left : List LedgerEntry) : Prop where
  settings : front.queue.settings = settings
  isOpen : front.queue.isShutdown = false
  bounded : front.queue.records.length ≤ front.queue.settings.room
  accepted : left.map LedgerEntry.record ++ front.queue.records = accepted
  gone : ∀ entry ∈ left, entry.fate = .handed ∨ entry.fate = .dropped
  handed : having .handed left = front.handed
  dropped : (having .dropped left).length = front.metrics.amount droppedCounter

/-- Entries with one fate. -/
private theorem having_map (fate other : Fate) (records : List Exposure) :
    having fate (records.map fun record => ⟨record, other⟩) =
      if other = fate then records else [] := by
  unfold having
  split
  · rename_i same
    simp [List.filter_map, Function.comp_def, same]
  · rename_i different
    simp [List.filter_map, Function.comp_def, different]

/-- What left the queue and what waits make up the ledger. -/
private theorem IsConserved.accounts {left : List LedgerEntry}
    (conserved : IsConserved settings accepted front left) :
    Accounts accepted front
      (left ++ front.queue.records.map fun record => ⟨record, .waiting⟩) := by
  have none {fate : Fate} (isElse : fate ≠ .handed ∧ fate ≠ .dropped) :
      having fate left = [] := by
    unfold having
    rw [List.filter_eq_nil_iff.mpr, List.map_nil]
    intro entry member
    rcases conserved.gone entry member with isHanded | isDropped
    · simp [isHanded, isElse.1.symm]
    · simp [isDropped, isElse.2.symm]
  refine {
    accepted := ?_
    waiting := ?_
    inFlight := ?_
    handed := ?_
    dropped := ?_
    ordered := ?_ }
  · rw [← conserved.accepted, List.map_append, List.map_map]
    simp [Function.comp_def]
  · rw [Ledger.having_append, none (by decide), having_map]
    rfl
  · rw [Ledger.having_append, none (by decide), having_map]
    rfl
  · rw [Ledger.having_append, having_map, conserved.handed]
    exact List.append_nil _
  · rw [Ledger.having_append, having_map, ← conserved.dropped]
    exact congrArg List.length (List.append_nil _)
  · have sameFates : left.filter (fun entry => entry.fate ≠ .dropped) =
        left.filter fun entry => entry.fate = .handed := by
      refine List.filter_congr fun entry member => ?_
      rcases conserved.gone entry member with isHanded | isDropped
      · simp [isHanded]
      · simp [isDropped]
    rw [List.filter_append, sameFates, List.map_append, ← conserved.handed]
    simp [having, List.filter_map, Function.comp_def]

/-- What a batch does to an open queue. -/
private theorem log_eq (isOpen : front.queue.isShutdown = false)
    (bounded : front.queue.records.length ≤ front.queue.settings.room) (batch : List Exposure) :
    let excess := (front.queue.records ++ batch).length - front.queue.settings.room
    ∃ queue : ExposureQueue, front.log batch =
        (.ok (), { front with queue, metrics := front.metrics.add droppedCounter excess }) ∧
      queue.settings = front.queue.settings ∧ queue.isShutdown = false ∧
        queue.records = (front.queue.records ++ batch).rtake front.queue.settings.room := by
  simp only [log, ExposureQueue.accept, isOpen, pushAll_eq bounded, ExposureQueue.notifyIfFull]
  refine ⟨_, rfl, ?_⟩
  split
  · exact ⟨rfl, rfl, rfl⟩
  · exact ⟨rfl, rfl, rfl⟩

/-- What a flush does. -/
private theorem flush_eq (inner : Inner) (front : Front) :
    ∃ new : List Sending, new.map Sending.chunk = front.queue.drain.1 ∧
      Answered inner front.sent new ∧ front.flush inner =
        let failures := new.filterMap Sending.failure
        (SendReport.result ⟨failures.length, failures.head?⟩,
          ⟨front.queue.drain.2, front.metrics.add failuresCounter failures.length,
            front.sent ++ new⟩) := by
  obtain ⟨new, sends, chunks, answered, reports⟩ :=
    sendChunks_hand inner {} front.sent front.queue.drain.1
  refine ⟨new, chunks, answered, ?_⟩
  simp only [flush, sends, reports, Nat.zero_add, Option.none_or]

/-- Taking a batch conserves. -/
private theorem IsConserved.log {left : List LedgerEntry}
    (conserved : IsConserved settings accepted front left) (batch : List Exposure) :
    Logs front batch (front.log batch) ∧
      ∃ later, IsConserved settings (accepted ++ batch) (front.log batch).2 later := by
  obtain ⟨queue, logs, sameSettings, isOpen, records⟩ :=
    log_eq conserved.isOpen conserved.bounded batch
  rw [logs]
  constructor
  · exact ⟨rfl, records, rfl, Metrics.amount_add_other _ _ (by decide)⟩
  · generalize isExcess :
      (front.queue.records ++ batch).length - front.queue.settings.room = excess
    have split : (front.queue.records ++ batch).take excess ++ queue.records =
        front.queue.records ++ batch := by
      rw [records, List.rtake, isExcess, List.take_append_drop]
    refine ⟨left ++ ((front.queue.records ++ batch).take excess).map fun record =>
      ⟨record, .dropped⟩, {
        settings := sameSettings.trans conserved.settings
        isOpen
        bounded := ?_
        accepted := ?_
        gone := ?_
        handed := ?_
        dropped := ?_ }⟩
    · show queue.records.length ≤ queue.settings.room
      rw [records, sameSettings, List.rtake, List.length_drop]
      omega
    · show _ ++ queue.records = _
      rw [List.map_append, List.map_map, ← conserved.accepted, List.append_assoc,
        List.append_assoc]
      refine congrArg (left.map LedgerEntry.record ++ ·) ?_
      simpa [Function.comp_def] using split
    · intro entry member
      rcases List.mem_append.mp member with isOld | isNew
      · exact conserved.gone entry isOld
      · obtain ⟨record, _, rfl⟩ := List.mem_map.mp isNew
        exact .inr rfl
    · rw [Ledger.having_append, having_map]
      exact (List.append_nil _).trans conserved.handed
    · have counted : (front.metrics.add droppedCounter excess).amount droppedCounter =
          front.metrics.amount droppedCounter + excess :=
        Metrics.amount_add _ droppedCounter _
      rw [Ledger.having_append, having_map, if_pos rfl, List.length_append, conserved.dropped,
        List.length_take, counted]
      omega

/-- Sending what waits conserves. -/
private theorem IsConserved.flush {left : List LedgerEntry}
    (conserved : IsConserved settings accepted front left) (inner : Inner) :
    (∃ new, Flushes inner front (front.flush inner) new) ∧
      ∃ later, IsConserved settings accepted (front.flush inner).2 later := by
  obtain ⟨new, chunks, answered, flushes⟩ := flush_eq inner front
  have all : new.flatMap Sending.chunk = front.queue.records := by
    rw [List.flatMap_def, chunks]
    exact ExposureQueue.flatten_chunks _ _
  generalize isFailures : new.filterMap Sending.failure = failures at flushes
  have droppedAlike : (front.metrics.add failuresCounter failures.length).amount droppedCounter =
      front.metrics.amount droppedCounter :=
    Metrics.amount_add_other _ _ (by decide)
  obtain ⟨sizes, full⟩ :=
    length_of_mem_chunks (Nat.le_max_left 1 front.queue.settings.maxBatchSize)
      front.queue.records
  rw [flushes]
  constructor
  · refine ⟨new, {
      records := rfl
      sent := rfl
      answered
      all
      sizes := fun sending member => ?_
      full := fun sending member => ?_
      failures := ?_
      outcome := fun error => ?_
      dropped := droppedAlike }⟩
    · have isChunk := List.mem_map_of_mem (f := Sending.chunk) member
      rw [chunks] at isChunk
      exact sizes sending.chunk isChunk
    · have isChunk := List.mem_map_of_mem (f := Sending.chunk) member
      rw [List.map_dropLast, chunks] at isChunk
      exact full sending.chunk isChunk
    · rw [isFailures]
      exact Metrics.amount_add _ failuresCounter _
    · rw [isFailures]
      exact result_eq_error_iff
  · refine ⟨left ++ front.queue.records.map fun record => ⟨record, .handed⟩, {
      settings := conserved.settings
      isOpen := conserved.isOpen
      bounded := Nat.zero_le _
      accepted := ?_
      gone := ?_
      handed := ?_
      dropped := ?_ }⟩
    · rw [List.map_append, List.map_map, ← conserved.accepted]
      simp [Function.comp_def, ExposureQueue.drain]
    · intro entry member
      rcases List.mem_append.mp member with isOld | isNew
      · exact conserved.gone entry isOld
      · obtain ⟨record, _, rfl⟩ := List.mem_map.mp isNew
        exact .inl rfl
    · rw [Ledger.having_append, having_map, if_pos rfl, conserved.handed, ← all]
      exact List.flatMap_append.symm
    · rw [Ledger.having_append, having_map, ← conserved.dropped.trans droppedAlike.symm]
      exact congrArg List.length (List.append_nil _)

/-- Whatever is logged and flushed, every accepted record is accounted for. -/
theorem Ran.isConserved (ran : Ran settings inner accepted front) :
    ∃ left, IsConserved settings accepted front left := by
  induction ran with
  | start =>
      exact ⟨[], {
        settings := rfl
        isOpen := rfl
        bounded := Nat.zero_le _
        accepted := rfl
        gone := fun _ member => by cases member
        handed := rfl
        dropped := rfl }⟩
  | log batch _ inductionHypothesis =>
      obtain ⟨left, conserved⟩ := inductionHypothesis
      exact (conserved.log batch).2
  | flush _ inductionHypothesis =>
      obtain ⟨left, conserved⟩ := inductionHypothesis
      exact (conserved.flush inner).2

/--
After any batches and flushes, however the inner sink answered, every accepted record waits,
was dropped and counted, or was handed over, once and in order.  The next batch leaves the last
records that the queue has room for, and the next flush hands over all that waits in chunks,
also after a failure, counts the failures and gives the first one back.
-/
theorem Ran.conserves (ran : Ran settings inner accepted front) :
    front.queue.settings = settings ∧ (∃ ledger, Accounts accepted front ledger) ∧
      (∀ batch, Logs front batch (front.log batch)) ∧
        ∃ new, Flushes inner front (front.flush inner) new := by
  obtain ⟨left, conserved⟩ := ran.isConserved
  exact ⟨conserved.settings, ⟨_, conserved.accounts⟩, fun batch => (conserved.log batch).1,
    (conserved.flush inner).1⟩

namespace Overflow

/-- One record more than there is room for. -/
def four : List Exposure :=
  ["u1", "u2", "u3", "u4"].map Exposure.toUser

/-- An inner sink that is not ready for the first chunk. -/
def failsFirst : Inner :=
  fun sent _ => if sent.isEmpty then .error (.internal "not ready") else .ok ()

/-- A queue with room for three records, after four of them. -/
def full : Front :=
  (log { queue := { settings := { maxBatchSize := 2, maxQueueSize := 3 } } } four).2

end Overflow

open Overflow in
/-- One record of four had no room, and the failure of the first chunk is given back. -/
theorem Ran.conserves_overflow :
    Ran { maxBatchSize := 2, maxQueueSize := 3 } failsFirst four full ∧
      full.queue.records = four.drop 1 ∧ (∃ ledger, Accounts four full ledger) ∧
        full.metrics.amount droppedCounter = 1 ∧
          (full.flush failsFirst).1 = .error (.internal "not ready") := by
  have ran : Ran { maxBatchSize := 2, maxQueueSize := 3 } failsFirst four full :=
    Ran.start.log four
  have records : full.queue.records = four.drop 1 := by decide +kernel
  obtain ⟨-, accounts, -, new, flushes⟩ := ran.conserves
  refine ⟨ran, records, accounts, by decide +kernel, ?_⟩
  cases isNew : new with
  | nil =>
      have all := flushes.all
      rw [isNew, records] at all
      cases all
  | cons first rest =>
      have fails : first.failure = some (.internal "not ready") := by
        rw [Sending.failure, flushes.answered [] first rest isNew]
        rfl
      rw [flushes.outcome, isNew, List.filterMap_cons_some fails, List.head?_cons]

end Front

end Switchboard
