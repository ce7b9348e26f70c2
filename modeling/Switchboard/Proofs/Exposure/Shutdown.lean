import Switchboard.Proofs.Exposure.Batching
import Switchboard.Proofs.Time.RoundTrip

namespace Switchboard

/-!
# Shutting a batching queue down

Every accepted record waits, is in flight, was handed to the destination or was dropped and
counted, whatever happens in whatever order.  The loop returns with nothing in flight; but
what was accepted after it last emptied the queue still waits, and will wait for ever,
unless it was dropped.
-/

/-- The record of one answer that a user was given. -/
def Exposure.toUser (user : String) : Exposure where
  environment := "prod"
  key := "beta_dashboard"
  value := true
  reason := .default
  userId := some user
  tenantId := none
  timestamp := .mayDay

/-- The chunks of a list make up the list. -/
theorem ExposureQueue.flatten_chunks (size : Nat) (records : List Exposure) :
    (chunks size records).flatten = records := by
  induction records using chunks.induct size with
  | case1 => rw [chunks, List.flatten_nil]
  | case2 first rest inductionHypothesis =>
      rw [chunks, List.flatten_cons, inductionHypothesis, List.cons_append, List.take_append_drop]

namespace Batching

open Ledger (having turn)

/-- The counter of the records that were dropped. -/
def droppedCounter : Counter :=
  ⟨.exposureRecordsDropped, []⟩

/-- The ledger says where the records are. -/
structure IsKept (batching : Batching) : Prop where
  waiting : having .waiting batching.ledger = batching.queue.records
  inFlight : having .inFlight batching.ledger = batching.phase.chunks.flatten
  handed : (having .handed batching.ledger).Perm batching.chunks.flatten
  dropped : (having .dropped batching.ledger).length =
    batching.output.metrics.amount droppedCounter
  /-- Nothing waits that had been accepted when the loop last emptied the queue. -/
  early : ∀ place entry, batching.ledger[place]? = some entry → place < batching.drained →
    entry.fate ≠ .waiting
  late : ∀ place entry, batching.ledger[place]? = some entry → batching.drained ≤ place →
    entry.fate = .waiting ∨ entry.fate = .dropped
  drained : batching.drained ≤ batching.ledger.length
  closed : ∀ count, batching.closed = some count → count ≤ batching.ledger.length

variable {batching later : Batching}

/-- Counting failures does not count records. -/
private theorem amount_failures (output : SinkOutput) (failures : Nat) :
    (output.count .exposureFailures failures).metrics.amount droppedCounter =
      output.metrics.amount droppedCounter :=
  Metrics.amount_add_other _ _ (by decide)

private theorem records_notifyIfFull (queue : ExposureQueue) :
    queue.notifyIfFull.records = queue.records := by
  unfold ExposureQueue.notifyIfFull
  split <;> rfl

/-- Nobody waits behind a mark beyond the end of the ledger. -/
private theorem not_waiting_of_none {ledger : List LedgerEntry}
    (none : having .waiting ledger = []) {place : Nat} {entry : LedgerEntry}
    (stands : ledger[place]? = some entry) :
    entry.fate ≠ .waiting :=
  Ledger.fate_ne_of_having none (List.mem_of_getElem? stands)

private theorem IsKept.enter (kept : batching.IsKept) (batch : List Exposure)
    (calls : List (List Exposure)) :
    IsKept { batching with
      queue := (batching.queue.pushAll batch).2.notifyIfFull
      output := batching.output.count .exposureRecordsDropped (batching.queue.pushAll batch).1
      calls
      ledger := Ledger.enter batching.queue batching.ledger batch } := by
  have enters := Ledger.enters_enter kept.waiting batch
  exact {
    waiting := enters.waiting.trans (records_notifyIfFull _).symm
    inFlight := enters.inFlight.trans kept.inFlight
    handed := enters.handed ▸ kept.handed
    dropped := by
      refine enters.dropped.trans ?_
      rw [kept.dropped]
      exact (Metrics.amount_add _ droppedCounter _).symm
    early := fun place entry stands isEarly => by
      rcases enters.entries place entry stands with ⟨old, oldStands, change⟩ | ⟨isNew, _⟩
      · have settled := kept.early place old oldStands isEarly
        rcases change with same | ⟨waited, _⟩
        · rwa [same]
        · exact absurd waited settled
      · exact absurd (Nat.lt_of_lt_of_le isEarly kept.drained) (Nat.not_lt.mpr isNew)
    late := fun place entry stands isLate => by
      rcases enters.entries place entry stands with ⟨old, oldStands, change⟩ | ⟨_, fates⟩
      · rcases change with same | ⟨_, dropped⟩
        · rw [same]
          exact kept.late place old oldStands isLate
        · exact .inr dropped
      · exact fates
    drained := Nat.le_trans kept.drained enters.length
    closed := fun count isCount => Nat.le_trans (kept.closed count isCount) enters.length }

private theorem IsKept.shutdown (kept : batching.IsKept) :
    IsKept { batching with
      queue := batching.queue.shutdown
      closed := batching.closed.or (some batching.ledger.length) } where
  waiting := kept.waiting
  inFlight := kept.inFlight
  handed := kept.handed
  dropped := kept.dropped
  early := kept.early
  late := kept.late
  drained := kept.drained
  closed count isCount := by
    cases already : batching.closed with
    | none =>
        simp only [already, Option.none_or, Option.some.injEq] at isCount
        exact Nat.le_of_eq isCount.symm
    | some first =>
        simp only [already, Option.some_or, Option.some.injEq] at isCount
        exact kept.closed count (already.trans (congrArg some isCount))

/-- To wake the loop moves no record. -/
private theorem IsKept.woken {queue : ExposureQueue} (kept : batching.IsKept)
    (waits : batching.phase = .waiting)
    (same : queue.records = batching.queue.records) :
    IsKept { batching with queue, phase := .woken } where
  waiting := kept.waiting.trans same.symm
  inFlight := by
    rw [kept.inFlight, waits]
    rfl
  handed := kept.handed
  dropped := kept.dropped
  early := kept.early
  late := kept.late
  drained := kept.drained
  closed := kept.closed

private theorem IsKept.skip (kept : batching.IsKept) (woken : batching.phase = .woken)
    (empty : batching.queue.records = []) :
    IsKept (looked { batching with
      output := batching.output.count .exposureFailures 0
      drained := batching.ledger.length }) := by
  have nothing : having .inFlight batching.ledger = [] := by
    rw [kept.inFlight, woken]
    rfl
  exact {
    waiting := kept.waiting
    inFlight := by
      refine nothing.trans ?_
      unfold looked
      split <;> rfl
    handed := kept.handed
    dropped := kept.dropped.trans (amount_failures _ _).symm
    early := fun place entry stands _ => not_waiting_of_none (kept.waiting.trans empty) stands
    late := fun place entry stands isLate =>
      absurd (List.getElem?_eq_some_iff.mp stands).1 (Nat.not_lt.mpr isLate)
    drained := Nat.le_refl _
    closed := kept.closed }

private theorem IsKept.drain (kept : batching.IsKept) (woken : batching.phase = .woken) :
    IsKept { batching with
      queue := batching.queue.drain.2
      phase := .sending {} batching.queue.drain.1
      ledger := turn .waiting .inFlight batching.queue.records.length batching.ledger
      drained := batching.ledger.length } := by
  have nothing : having .inFlight batching.ledger = [] := by
    rw [kept.inFlight, woken]
    rfl
  have none : having .waiting
      (turn .waiting .inFlight batching.queue.records.length batching.ledger) = [] := by
    rw [Ledger.having_turn_before (by decide), kept.waiting, List.drop_length]
  exact {
    waiting := none
    inFlight := by
      rw [Ledger.having_turn_of_none (by decide) nothing, kept.waiting, List.take_length]
      exact (ExposureQueue.flatten_chunks _ _).symm
    handed := by
      rw [Ledger.having_turn_other (by decide) (by decide)]
      exact kept.handed
    dropped := by
      rw [Ledger.having_turn_other (by decide) (by decide)]
      exact kept.dropped
    early := fun place entry stands _ => not_waiting_of_none none stands
    late := fun place entry stands isLate => by
      have inRange := (List.getElem?_eq_some_iff.mp stands).1
      rw [Ledger.length_turn] at inRange
      exact absurd inRange (Nat.not_lt.mpr isLate)
    drained := Nat.le_of_eq (Ledger.length_turn _ _ _ _).symm
    closed := fun count isCount => by
      rw [Ledger.length_turn]
      exact kept.closed count isCount }

private theorem IsKept.send {report next : SendReport} {chunk : List Exposure}
    {rest : List (List Exposure)} (kept : batching.IsKept)
    (sends : batching.phase = .sending report (chunk :: rest)) (delivered : Delivered) :
    IsKept { batching with
      output := { batching.output with delivered }
      phase := .sending next rest
      ledger := turn .inFlight .handed chunk.length batching.ledger
      chunks := batching.chunks ++ [chunk] } := by
  have inFlight : having .inFlight batching.ledger = chunk ++ rest.flatten := by
    rw [kept.inFlight, sends]
    rfl
  exact {
    waiting := by
      rw [Ledger.having_turn_other (by decide) (by decide)]
      exact kept.waiting
    inFlight := by
      rw [Ledger.having_turn_before (by decide), inFlight, List.drop_left]
      rfl
    handed := by
      refine (Ledger.having_turn_after (by decide)).trans ?_
      rw [inFlight, List.take_left, List.flatten_append, List.flatten_singleton]
      exact kept.handed.append_right chunk
    dropped := by
      rw [Ledger.having_turn_other (by decide) (by decide)]
      exact kept.dropped
    early := fun place entry stands isEarly => by
      obtain ⟨old, oldStands, change⟩ := Ledger.fate_turn stands
      rcases change with same | ⟨_, isHanded⟩
      · rw [same]
        exact kept.early place old oldStands isEarly
      · rw [isHanded]
        decide
    late := fun place entry stands isLate => by
      obtain ⟨old, oldStands, change⟩ := Ledger.fate_turn stands
      have fates := kept.late place old oldStands isLate
      rcases change with same | ⟨wasInFlight, _⟩
      · rwa [same]
      · rw [wasInFlight] at fates
        simp at fates
    drained := by
      rw [Ledger.length_turn]
      exact kept.drained
    closed := fun count isCount => by
      rw [Ledger.length_turn]
      exact kept.closed count isCount }

private theorem IsKept.finish {report : SendReport} (kept : batching.IsKept)
    (sent : batching.phase = .sending report []) :
    IsKept (looked { batching with
      output := batching.output.count .exposureFailures report.failures }) where
  waiting := kept.waiting
  inFlight := by
    refine kept.inFlight.trans ?_
    rw [sent]
    unfold looked
    split <;> rfl
  handed := kept.handed
  dropped := kept.dropped.trans (amount_failures _ _).symm
  early := kept.early
  late := kept.late
  drained := kept.drained
  closed := kept.closed

/-- Every step keeps the ledger. -/
theorem IsKept.step (kept : batching.IsKept) (step : Step batching later) : later.IsKept := by
  cases step with
  | refuse isShutdown => exact kept
  | call batch isOpen =>
      exact ⟨kept.waiting, kept.inFlight, kept.handed, kept.dropped, kept.early, kept.late,
        kept.drained, kept.closed⟩
  | enter batch waits => exact kept.enter batch _
  | shutdown => exact kept.shutdown
  | fire waits => exact kept.woken waits rfl
  | wake waits permit => exact kept.woken waits rfl
  | skip woken empty => exact kept.skip woken empty
  | drain woken holds => exact kept.drain woken
  | send outcome delivered sends => exact kept.send sends delivered
  | finish sent => exact kept.finish sent

/-- A queue with a loop, before anything happens. -/
def start (settings : QueueSettings) (delivered : Delivered) : Batching where
  queue := { settings }
  output := { delivered }

theorem isKept_start (settings : QueueSettings) (delivered : Delivered) :
    (start settings delivered).IsKept where
  waiting := rfl
  inFlight := rfl
  handed := .refl _
  dropped := rfl
  early _ _ stands := by cases stands
  late _ _ stands := by cases stands
  drained := Nat.le_refl _
  closed _ isCount := by cases isCount

/-- Every run keeps the ledger. -/
theorem IsKept.run (kept : batching.IsKept) (run : Run batching later) : later.IsKept := by
  induction run with
  | refl => exact kept
  | tail _ step inductionHypothesis => exact inductionHypothesis.step step

/-- The record that was accepted in a place was handed to the destination or dropped. -/
def IsSettled (batching : Batching) (place : Nat) : Prop :=
  ∃ entry, batching.ledger[place]? = some entry ∧
    (entry.fate = .handed ∨ entry.fate = .dropped)

/--
Wherever the loop sends and the queue is not shut down, a record that is then accepted can
be lost: the queue is shut down after it, and the loop looks.
-/
theorem strands_of_sending {report : SendReport} {chunks : List (List Exposure)}
    (record : Exposure)
    (sends : batching.phase = .sending report chunks)
    (isOpen : batching.queue.isShutdown = false)
    (notClosed : batching.closed = none) :
    ∃ later, Run batching later ∧ later.phase = .returned ∧
      ∃ place, later.closed = some (place + 1) ∧ ¬later.IsSettled place := by
  obtain ⟨sent, sending, phase, -, queue, closed⟩ := sends_are_run .discard sends
  have called : Run sent { sent with calls := sent.calls ++ [[record]] } :=
    .single (.call [record] (queue ▸ isOpen))
  obtain ⟨entered, enters, enteredPhase, enteredClosed, ledger⟩ :
      ∃ entered, Run sent entered ∧ entered.phase = sent.phase ∧
        entered.closed = sent.closed ∧
          entered.ledger = Ledger.enter sent.queue sent.ledger [record] :=
    ⟨_, called.tail (.enter [record] rfl), rfl, rfl, rfl⟩
  have settled := enters.tail .shutdown
  refine ⟨_, (sending.trans settled).tail (.finish (enteredPhase.trans phase)), rfl,
    sent.ledger.length, ?_, ?_⟩
  · simp [looked, enteredClosed, closed, notClosed, ledger, Ledger.enter]
  · rintro ⟨entry, stands, fates⟩
    have isNew : entry.fate = .waiting := by
      simp [looked, ledger, Ledger.enter] at stands
      simp [← stands]
    simp [isNew] at fates

/--
Whatever calls, shutdowns and the loop do between their waits: when the loop has returned,
all records that had been accepted when the queue was shut down were handed to the
destination or dropped exactly when each of them that was accepted after the loop last
emptied the queue was dropped.  What was handed over is what the destination was given, and
what was dropped is counted.
-/
theorem accepted_before_shutdown_settled_iff
    {settings : QueueSettings} {delivered : Delivered}
    (run : Run (start settings delivered) batching)
    (returned : batching.phase = .returned)
    {count : Nat}
    (closed : batching.closed = some count) :
    ((∀ place < count, batching.IsSettled place) ↔
        ∀ place < count, batching.drained ≤ place →
          ∃ entry, batching.ledger[place]? = some entry ∧ entry.fate = .dropped) ∧
      (having .handed batching.ledger).Perm batching.chunks.flatten ∧
        (having .dropped batching.ledger).length =
          batching.output.metrics.amount droppedCounter := by
  have kept := (isKept_start settings delivered).run run
  have landed : having .inFlight batching.ledger = [] := by
    rw [kept.inFlight, returned]
    rfl
  have accepted := kept.closed count closed
  refine ⟨⟨fun settled place isBefore isLate => ?_, fun dropped place isBefore => ?_⟩,
    kept.handed, kept.dropped⟩
  · obtain ⟨entry, stands, fates⟩ := settled place isBefore
    refine ⟨entry, stands, ?_⟩
    rcases kept.late place entry stands isLate with waiting | isDropped
    · simp [waiting] at fates
    · exact isDropped
  · obtain ⟨entry, stands⟩ : ∃ entry, batching.ledger[place]? = some entry :=
      ⟨_, List.getElem?_eq_getElem (Nat.lt_of_lt_of_le isBefore accepted)⟩
    refine ⟨entry, stands, ?_⟩
    by_cases isLate : batching.drained ≤ place
    · obtain ⟨other, otherStands, isDropped⟩ := dropped place isBefore isLate
      cases stands.symm.trans otherStands
      exact .inr isDropped
    · have notWaiting := kept.early place entry stands (Nat.lt_of_not_le isLate)
      have notInFlight := Ledger.fate_ne_of_having landed (List.mem_of_getElem? stands)
      cases fate : entry.fate with
      | waiting => exact absurd fate notWaiting
      | inFlight => exact absurd fate notInFlight
      | handed => exact .inl rfl
      | dropped => exact .inr rfl

/--
Records of two users: the loop takes the first out of the queue, and the second is accepted
while the destination has the first.
-/
theorem accepted_before_shutdown_settled_iff_stranded :
    ∃ batching count, Run (start {} {}) batching ∧ batching.phase = .returned ∧
      batching.closed = some count ∧ (∃ place < count, ¬batching.IsSettled place) ∧
        ¬∀ place < count, batching.drained ≤ place →
          ∃ entry, batching.ledger[place]? = some entry ∧ entry.fate = .dropped := by
  have called : Run (start {} {}) { start {} {} with calls := [[Exposure.toUser "u1"]] } :=
    .single (.call [Exposure.toUser "u1"] rfl)
  obtain ⟨entered, enters, waits, isOpen, notClosed, holds⟩ :
      ∃ entered, Run (start {} {}) entered ∧ entered.phase = .waiting ∧
        entered.queue.isShutdown = false ∧ entered.closed = none ∧
          entered.queue.records = [Exposure.toUser "u1"] :=
    ⟨_, called.tail (@Step.enter _ [] [] [Exposure.toUser "u1"] rfl), rfl, rfl, rfl, rfl⟩
  have woken : Run (start {} {}) { entered with phase := .woken } := enters.tail (.fire waits)
  obtain ⟨drained, drains, sends, stillOpen, stillNotClosed⟩ :
      ∃ drained, Run (start {} {}) drained ∧
        drained.phase = .sending {} entered.queue.drain.1 ∧
          drained.queue.isShutdown = false ∧ drained.closed = none :=
    ⟨_, woken.tail (.drain rfl (by simp [holds])), rfl, isOpen, notClosed⟩
  obtain ⟨later, loses, returned, place, closed, lost⟩ :=
    strands_of_sending (Exposure.toUser "u2") sends stillOpen stillNotClosed
  have run := drains.trans loses
  exact ⟨later, place + 1, run, returned, closed, ⟨place, Nat.lt_succ_self place, lost⟩,
    fun dropped => lost ((accepted_before_shutdown_settled_iff run returned closed).1.mpr dropped
      place (Nat.lt_succ_self place))⟩

end Batching

end Switchboard
