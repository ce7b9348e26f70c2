import Switchboard.Proofs.Exposure.Shutdown

namespace Switchboard

/-!
# Waking the loop

The queue, its calls and its loop once more, in smaller steps.  A call lets its records wait
and gives its signal afterwards, and so does a shutdown; the loop looks for the permit, parks,
and looks whether the queue is shut down, each by itself.  A signal wakes a loop that is parked,
and leaves the permit where it is not.

While the loop is parked, whatever there is to wake it for was followed by a signal, or will
be: the loop has been woken, or somebody has yet to give a signal.
-/

namespace ExposureQueue

/-- Enough records wait for a whole batch. -/
def IsFull (queue : ExposureQueue) : Prop :=
  queue.settings.maxBatchSize ≤ queue.records.length

instance (queue : ExposureQueue) : Decidable queue.IsFull :=
  inferInstanceAs (Decidable (_ ≤ _))

/--
There is something to wake a loop for: a whole batch waits, or the queue is shut down.  That some
record waits is asked for the batch size of zero only, which no accepted configuration has: there
an empty queue is full from the start, before any call could have given a signal.
-/
def IsDue (queue : ExposureQueue) : Prop :=
  queue.IsFull ∧ queue.records ≠ [] ∨ queue.isShutdown = true

instance (queue : ExposureQueue) : Decidable queue.IsDue :=
  inferInstanceAs (Decidable (_ ∧ _ ∨ _))

/-- Where batches have a size, a full queue is one in which records wait. -/
theorem isDue_iff_of_sized {queue : ExposureQueue} (sized : 0 < queue.settings.maxBatchSize) :
    queue.IsDue ↔ queue.IsFull ∨ queue.isShutdown = true := by
  have holds (full : queue.IsFull) : queue.records ≠ [] :=
    List.ne_nil_of_length_pos (Nat.lt_of_lt_of_le sized full)
  unfold IsDue
  constructor
  · rintro (⟨full, _⟩ | isShutdown)
    · exact .inl full
    · exact .inr isShutdown
  · rintro (full | isShutdown)
    · exact .inl ⟨full, holds full⟩
    · exact .inr isShutdown

end ExposureQueue

/-- Where the loop is. -/
inductive LoopPlace where
  /-- Before it looks for the permit. -/
  | arriving
  /-- Until its timer fires or it finds that it was woken. -/
  | parked (woken : Bool)
  /-- On its way to the queue, to take all records out. -/
  | going
  | sending (chunks : List (List Exposure))
  /-- Before it looks whether the queue is shut down. -/
  | leaving
  | returned
  deriving DecidableEq, Repr

/--
A queue, its loop, the batches of the calls that wait for the lock, how many calls and
shutdowns have yet to give their signal, and every chunk that the destination was handed.
-/
structure Signalling where
  queue : ExposureQueue
  place : LoopPlace := .arriving
  calls : List (List Exposure) := []
  signals : Nat := 0
  chunks : List (List Exposure) := []
  deriving Repr

namespace Signalling

/-- A signal wakes a loop that is parked and not yet woken; any other loop finds the permit. -/
def signal (signalling : Signalling) : Signalling :=
  match signalling.place with
  | .parked false => { signalling with place := .parked true }
  | _ => { signalling with queue := signalling.queue.notify }

/-- What the loop does without its timer. -/
inductive LoopStep : Signalling → Signalling → Prop where
  | take {signalling : Signalling} (arrives : signalling.place = .arriving)
      (permit : signalling.queue.permit = true) :
      LoopStep signalling { signalling with
        queue := signalling.queue.takePermit
        place := .going }
  | park {signalling : Signalling} (arrives : signalling.place = .arriving)
      (noPermit : signalling.queue.permit = false) :
      LoopStep signalling { signalling with place := .parked false }
  | wake {signalling : Signalling} (woken : signalling.place = .parked true) :
      LoopStep signalling { signalling with place := .going }
  | skip {signalling : Signalling} (goes : signalling.place = .going)
      (empty : signalling.queue.records = []) :
      LoopStep signalling { signalling with place := .leaving }
  | drain {signalling : Signalling} (goes : signalling.place = .going)
      (holds : signalling.queue.records ≠ []) :
      LoopStep signalling { signalling with
        queue := signalling.queue.drain.2
        place := .sending signalling.queue.drain.1 }
  | send {signalling : Signalling} {chunk : List Exposure} {rest : List (List Exposure)}
      (sends : signalling.place = .sending (chunk :: rest)) :
      LoopStep signalling { signalling with
        place := .sending rest
        chunks := signalling.chunks ++ [chunk] }
  | finish {signalling : Signalling} (sent : signalling.place = .sending []) :
      LoopStep signalling { signalling with place := .leaving }
  | look {signalling : Signalling} (leaves : signalling.place = .leaving) :
      LoopStep signalling { signalling with
        place := if signalling.queue.isShutdown then .returned else .arriving }

/-- What may happen next. -/
inductive Step : Signalling → Signalling → Prop where
  | loop {signalling later : Signalling} (step : LoopStep signalling later) :
      Step signalling later
  /-- The timer of a parked loop fires; what woke it meanwhile becomes the permit, or is lost. -/
  | fire {signalling : Signalling} {woken : Bool} (parked : signalling.place = .parked woken)
      (passedOn : Bool) :
      Step signalling { signalling with
        queue := if woken && passedOn then signalling.queue.notify else signalling.queue
        place := .going }
  /-- The timer has fired before the loop parks. -/
  | overdue {signalling : Signalling} (arrives : signalling.place = .arriving) :
      Step signalling { signalling with place := .going }
  /-- A call sees that the queue is shut down, and fails. -/
  | refuse {signalling : Signalling} (isShutdown : signalling.queue.isShutdown = true) :
      Step signalling signalling
  /-- A call sees that the queue is not shut down, and waits for the lock. -/
  | call {signalling : Signalling} (batch : List Exposure)
      (isOpen : signalling.queue.isShutdown = false) :
      Step signalling { signalling with calls := signalling.calls ++ [batch] }
  /-- A call gets the lock, lets its records wait, and has no signal to give. -/
  | enter {signalling : Signalling} {earlier later : List (List Exposure)}
      (batch : List Exposure) (waits : signalling.calls = earlier ++ batch :: later)
      (notFull : ¬(signalling.queue.pushAll batch).2.IsFull) :
      Step signalling { signalling with
        queue := (signalling.queue.pushAll batch).2
        calls := earlier ++ later }
  /-- A call gets the lock, lets its records wait, and has a signal to give. -/
  | fill {signalling : Signalling} {earlier later : List (List Exposure)}
      (batch : List Exposure) (waits : signalling.calls = earlier ++ batch :: later)
      (full : (signalling.queue.pushAll batch).2.IsFull) :
      Step signalling { signalling with
        queue := (signalling.queue.pushAll batch).2
        calls := earlier ++ later
        signals := signalling.signals + 1 }
  | shutdown {signalling : Signalling} :
      Step signalling { signalling with
        queue := { signalling.queue with isShutdown := true }
        signals := signalling.signals + 1 }
  /-- Somebody gives the signal that is still to be given. -/
  | signal {signalling : Signalling} {others : Nat} (owed : signalling.signals = others + 1) :
      Step signalling { signalling.signal with signals := others }

/-- Whatever happens in whatever order. -/
abbrev Run : Signalling → Signalling → Prop :=
  Relation.ReflTransGen Step

/-- What a loop does that nobody interrupts, as long as its timer does not fire. -/
abbrev LoopRun : Signalling → Signalling → Prop :=
  Relation.ReflTransGen LoopStep

variable {signalling later : Signalling}

/-! ## Larger steps -/

/-- A loop that waits is about to look for the permit. -/
def placeOf : LoopPhase → LoopPlace
  | .waiting => .arriving
  | .woken => .going
  | .sending _ chunks => .sending chunks
  | .returned => .returned

/-- A queue with its loop and its calls, between two of their waits. -/
def ofBatching (batching : Batching) : Signalling where
  queue := batching.queue
  place := placeOf batching.phase
  calls := batching.calls
  chunks := batching.chunks

/-- A loop that is not parked finds the permit. -/
theorem Step.leavesPermit {others : Nat} (notParked : signalling.place ≠ .parked false)
    (owed : signalling.signals = others + 1) :
    Step signalling
      { signalling with queue := signalling.queue.notify, signals := others } := by
  have given := Step.signal owed
  unfold Signalling.signal at given
  split at given
  · rename_i parked
    exact absurd parked notParked
  · exact given

private theorem placeOf_ne_parked (phase : LoopPhase) : placeOf phase ≠ .parked false := by
  cases phase with
  | waiting => exact nofun
  | woken => exact nofun
  | sending report chunks => exact nofun
  | returned => exact nofun

private theorem ofBatching_looked (batching : Batching) :
    ofBatching (Batching.looked batching) =
      { ofBatching batching with
        place := if batching.queue.isShutdown then .returned else .arriving } := by
  unfold Batching.looked ofBatching
  cases isShutdown : batching.queue.isShutdown with
  | true => rfl
  | false => rfl

/-- What happens between two waits is what may happen here, with its signals given at once. -/
theorem run_of_batchingStep {batching next : Batching} (step : Batching.Step batching next) :
    Run (ofBatching batching) (ofBatching next) := by
  have notParked := placeOf_ne_parked batching.phase
  cases step with
  | refuse isShutdown => exact .single (.refuse isShutdown)
  | call batch isOpen => exact .single (.call batch isOpen)
  | enter batch waits =>
      unfold ExposureQueue.notifyIfFull
      split
      · rename_i full
        have filled : Run (ofBatching batching) _ := .single (.fill batch waits full)
        exact filled.tail (.leavesPermit notParked rfl)
      · rename_i notFull
        exact .single (.enter batch waits notFull)
  | shutdown =>
      have closed : Run (ofBatching batching) _ := .single .shutdown
      exact closed.tail (.leavesPermit notParked rfl)
  | fire waits => exact .single (.overdue (congrArg placeOf waits))
  | wake waits permit => exact .single (.loop (.take (congrArg placeOf waits) permit))
  | skip woken empty =>
      rw [ofBatching_looked]
      have skipped : Run (ofBatching batching) _ :=
        .single (.loop (.skip (congrArg placeOf woken) empty))
      exact skipped.tail (.loop (.look rfl))
  | drain woken holds => exact .single (.loop (.drain (congrArg placeOf woken) holds))
  | send outcome delivered sends => exact .single (.loop (.send (congrArg placeOf sends)))
  | finish sent =>
      rw [ofBatching_looked]
      have finished : Run (ofBatching batching) _ :=
        .single (.loop (.finish (congrArg placeOf sent)))
      exact finished.tail (.loop (.look rfl))

theorem run_of_batchingRun {batching next : Batching} (run : Batching.Run batching next) :
    Run (ofBatching batching) (ofBatching next) := by
  induction run with
  | refl => exact .refl
  | tail _ step inductionHypothesis => exact inductionHypothesis.trans (run_of_batchingStep step)

/-! ## Signals that are given -/

/-- The loop was woken, or will find the permit. -/
def HasPermit (signalling : Signalling) : Prop :=
  signalling.place = .parked true ∨ signalling.queue.permit = true

/-- The loop has the permit, or somebody has yet to give a signal. -/
def IsTold (signalling : Signalling) : Prop :=
  signalling.HasPermit ∨ 0 < signalling.signals

/--
A full queue was followed by a signal or will be, unless the loop is about to empty it.  So
was a shutdown, unless the loop is about to look.
-/
structure IsSignalled (signalling : Signalling) : Prop where
  full : signalling.queue.IsFull → signalling.queue.records ≠ [] →
    signalling.place ≠ .going → signalling.IsTold
  shutdown : signalling.queue.isShutdown = true →
    (signalling.place = .arriving ∨ ∃ woken, signalling.place = .parked woken) →
      signalling.IsTold
  /-- A loop parks without the permit, and is woken by the first signal. -/
  parked : signalling.place = .parked false → signalling.queue.permit = false

/-- Whoever gives a signal wakes the loop or leaves the permit. -/
theorem hasPermit_signal (signalling : Signalling) : signalling.signal.HasPermit := by
  unfold signal
  split
  · exact .inl rfl
  · exact .inr rfl

/-- Who was told stays told, as long as the loop does not use up what woke it. -/
private theorem IsTold.keep (told : signalling.IsTold)
    (woken : signalling.place = .parked true → later.place = .parked true)
    (permit : later.queue.permit = signalling.queue.permit)
    (signals : later.signals = signalling.signals) :
    later.IsTold := by
  rcases told with (isWoken | hasPermit) | owed
  · exact .inl (.inl (woken isWoken))
  · exact .inl (.inr (permit.trans hasPermit))
  · exact .inr (signals ▸ owed)

/-- Once somebody was told, there is nobody else to tell. -/
private theorem IsSignalled.of_isTold (told : later.IsTold)
    (parked : later.place = .parked false → later.queue.permit = false) :
    later.IsSignalled where
  full _ _ _ := told
  shutdown _ _ := told
  parked := parked

/-- Records enter a queue, and nothing else about it changes. -/
private theorem pushAll_rest (queue : ExposureQueue) (batch : List Exposure) :
    ∃ records, (queue.pushAll batch).2 = { queue with records } := by
  induction batch generalizing queue with
  | nil => exact ⟨queue.records, rfl⟩
  | cons record rest inductionHypothesis =>
      obtain ⟨records, entered⟩ := inductionHypothesis (queue.push record).2
      refine ⟨records, entered.trans ?_⟩
      unfold ExposureQueue.push
      split
      · rfl
      · rfl

/-- A loop that neither waits nor parks has nothing to be told of a shutdown. -/
private theorem IsSignalled.of_full
    (full : later.queue.IsFull → later.queue.records ≠ [] → later.place ≠ .going → later.IsTold)
    (notArriving : later.place ≠ .arriving)
    (notParked : ∀ woken, later.place ≠ .parked woken) :
    later.IsSignalled where
  full := full
  shutdown _ waits := by
    rcases waits with arrives | ⟨woken, parked⟩
    · exact absurd arrives notArriving
    · exact absurd parked (notParked woken)
  parked isParked := absurd isParked (notParked false)

/-- A step of the loop uses a signal up only on its way to what the signal was for. -/
private theorem IsSignalled.loopStep (signalled : signalling.IsSignalled)
    (step : LoopStep signalling later) :
    later.IsSignalled := by
  cases step with
  | take arrives permit =>
      refine .of_full ?_ nofun nofun
      intro full holds notGoing
      exact absurd rfl notGoing
  | park arrives noPermit =>
      have notWoken : signalling.place ≠ .parked true := by simp [arrives]
      have notGoing : signalling.place ≠ .going := by simp [arrives]
      have keeps (told : signalling.IsTold) :
          IsTold { signalling with place := .parked false } :=
        told.keep (absurd · notWoken) rfl rfl
      refine { full := ?_, shutdown := ?_, parked := ?_ }
      · intro full holds _
        exact keeps (signalled.full full holds notGoing)
      · intro isShutdown _
        exact keeps (signalled.shutdown isShutdown (.inl arrives))
      · intro _
        exact noPermit
  | wake woken =>
      refine .of_full ?_ nofun nofun
      intro full holds notGoing
      exact absurd rfl notGoing
  | skip goes empty =>
      refine .of_full ?_ nofun nofun
      intro full holds notGoing
      exact absurd empty holds
  | drain goes holds =>
      refine .of_full ?_ nofun nofun
      intro full stillHolds notGoing
      exact absurd rfl stillHolds
  | send sends =>
      refine .of_full ?_ nofun nofun
      intro full holds _
      have notWoken : signalling.place ≠ .parked true := by simp [sends]
      have notGoing : signalling.place ≠ .going := by simp [sends]
      exact (signalled.full full holds notGoing).keep (absurd · notWoken) rfl rfl
  | finish sent =>
      refine .of_full ?_ nofun nofun
      intro full holds _
      have notWoken : signalling.place ≠ .parked true := by simp [sent]
      have notGoing : signalling.place ≠ .going := by simp [sent]
      exact (signalled.full full holds notGoing).keep (absurd · notWoken) rfl rfl
  | look leaves =>
      have notWoken : signalling.place ≠ .parked true := by simp [leaves]
      have notGoing : signalling.place ≠ .going := by simp [leaves]
      refine { full := ?_, shutdown := ?_, parked := ?_ }
      · intro full holds _
        exact (signalled.full full holds notGoing).keep (absurd · notWoken) rfl rfl
      · intro isShutdown waits
        simp [show signalling.queue.isShutdown = true from isShutdown] at waits
      · intro isParked
        dsimp only at isParked
        split at isParked
        · cases isParked
        · cases isParked

/-- Whatever happens, what there is to wake the loop for is followed by a signal. -/
theorem IsSignalled.step (signalled : signalling.IsSignalled) (step : Step signalling later) :
    later.IsSignalled := by
  cases step with
  | loop step => exact signalled.loopStep step
  | fire parked passedOn =>
      refine .of_full ?_ nofun nofun
      intro full holds notGoing
      exact absurd rfl notGoing
  | overdue arrives =>
      refine .of_full ?_ nofun nofun
      intro full holds notGoing
      exact absurd rfl notGoing
  | refuse isShutdown => exact signalled
  | call batch isOpen => exact ⟨signalled.full, signalled.shutdown, signalled.parked⟩
  | enter batch waits notFull =>
      obtain ⟨records, entered⟩ := pushAll_rest signalling.queue batch
      rw [entered] at notFull ⊢
      refine { full := ?_, shutdown := ?_, parked := signalled.parked }
      · intro full
        exact absurd full notFull
      · intro isShutdown waits
        exact (signalled.shutdown isShutdown waits).keep id rfl rfl
  | fill batch waits full =>
      obtain ⟨records, entered⟩ := pushAll_rest signalling.queue batch
      rw [entered]
      exact .of_isTold (.inr (Nat.succ_pos _)) signalled.parked
  | shutdown => exact .of_isTold (.inr (Nat.succ_pos _)) signalled.parked
  | signal owed =>
      refine .of_isTold (.inl (hasPermit_signal signalling)) ?_
      intro isParked
      dsimp only [Signalling.signal] at isParked ⊢
      split at isParked
      · cases isParked
      · rename_i notParked
        exact absurd isParked notParked

/-- A queue with a loop, before anything happens. -/
def start (settings : QueueSettings) : Signalling where
  queue := { settings }

theorem isSignalled_start (settings : QueueSettings) : (start settings).IsSignalled where
  full _ holds := absurd rfl holds
  shutdown isShutdown := by cases isShutdown
  parked isParked := by cases isParked

theorem IsSignalled.run (signalled : signalling.IsSignalled) (run : Run signalling later) :
    later.IsSignalled := by
  induction run with
  | refl => exact signalled
  | tail _ step inductionHypothesis => exact inductionHypothesis.step step

/-! ## What a loop does that has the permit -/

/-- The chunks of a sending are handed over one after the other. -/
private theorem loopRun_sends {chunks : List (List Exposure)}
    (sends : signalling.place = .sending chunks) :
    LoopRun signalling
      { signalling with place := .leaving, chunks := signalling.chunks ++ chunks } := by
  induction chunks generalizing signalling with
  | nil =>
      rw [List.append_nil]
      exact .single (.finish sends)
  | cons chunk rest inductionHypothesis =>
      have sent := @inductionHypothesis { signalling with
        place := .sending rest
        chunks := signalling.chunks ++ [chunk] } rfl
      rw [List.append_assoc] at sent
      exact sent.head (.send sends)

/-- A loop on its way to the queue hands everything over that waits there. -/
private theorem loopRun_flushes (goes : signalling.place = .going) :
    LoopRun signalling { signalling with
      queue := signalling.queue.drain.2
      place := .leaving
      chunks := signalling.chunks ++ signalling.queue.drain.1 } := by
  by_cases empty : signalling.queue.records = []
  · have noChunks : signalling.queue.drain.1 = [] := by
      simp [ExposureQueue.drain, empty, ExposureQueue.chunks]
    have same : signalling.queue.drain.2 = signalling.queue := by
      unfold ExposureQueue.drain
      rw [← empty]
    rw [noChunks, same, List.append_nil]
    exact .single (.skip goes empty)
  · exact (loopRun_sends rfl).head (.drain goes empty)

/--
A loop that was woken hands everything over that waits and then ends or begins again, without
its timer.
-/
theorem loopRun_of_woken (woken : signalling.place = .parked true) :
    LoopRun signalling { signalling with
      queue := signalling.queue.drain.2
      place := if signalling.queue.isShutdown then .returned else .arriving
      chunks := signalling.chunks ++ signalling.queue.drain.1 } := by
  have flushed : LoopRun { signalling with place := .going } _ := loopRun_flushes rfl
  exact (flushed.head (.wake woken)).tail (.look rfl)

/--
Whatever calls, shutdowns and the loop do in whatever order: while the loop is parked and nobody
has yet to give a signal, a full queue or one that is shut down has woken it.  It then empties
the queue into the destination, and ends if the queue is shut down, without its timer.  A queue
that counts as full while nothing waits in it, for batches of size zero, need not have woken it.
-/
theorem parked_loop_is_woken_where_due {settings : QueueSettings} {woken : Bool}
    (run : Run (start settings) signalling)
    (parked : signalling.place = .parked woken)
    (nobody : signalling.signals = 0)
    (due : signalling.queue.IsDue) :
    woken = true ∧ LoopRun signalling { signalling with
      queue := { signalling.queue with records := [] }
      place := if signalling.queue.isShutdown then .returned else .arriving
      chunks := signalling.chunks ++ signalling.queue.drain.1 } := by
  have signalled := (isSignalled_start settings).run run
  have told : signalling.IsTold := by
    rcases due with ⟨full, holds⟩ | isShutdown
    · exact signalled.full full holds fun goes => absurd (parked.symm.trans goes) nofun
    · exact signalled.shutdown isShutdown (.inr ⟨woken, parked⟩)
  have isWoken : woken = true := by
    rcases told with (isWoken | permit) | owed
    · exact LoopPlace.parked.inj (parked.symm.trans isWoken)
    · cases woken with
      | true => rfl
      | false =>
          rw [signalled.parked parked] at permit
          cases permit
    · exact absurd nobody (Nat.ne_of_gt owed)
  subst isWoken
  exact ⟨rfl, loopRun_of_woken parked⟩

namespace Crowded

/-- The queue that the loop finds, with a whole batch. -/
def crowd : ExposureQueue where
  settings := { maxBatchSize := 2 }
  records := [Exposure.toUser "u1", Exposure.toUser "u2"]

end Crowded

open Crowded in
/--
Batches of two.  Two calls with one record each see an open queue while the loop is parked; the
second that gets the lock fills the queue.
-/
theorem parked_loop_is_woken_where_due_crowded :
    ∃ signalling woken, Run (start { maxBatchSize := 2 }) signalling ∧
      signalling.place = .parked woken ∧ signalling.signals = 0 ∧ signalling.queue.IsDue ∧
        woken = true ∧
          ∃ later, LoopRun signalling later ∧ later.queue.records = [] ∧
            later.place = .arriving ∧ later.chunks.flatten = signalling.queue.records ∧
              signalling.queue.records.length = 2 := by
  have parked : Run (start { maxBatchSize := 2 }) _ := .single (.loop (.park rfl rfl))
  have first := parked.tail (.call [Exposure.toUser "u1"] rfl)
  have called := first.tail (.call [Exposure.toUser "u2"] rfl)
  have entered := called.tail
    (@Step.enter _ [] [[Exposure.toUser "u2"]] [Exposure.toUser "u1"] rfl (by decide))
  have filled := entered.tail (@Step.fill _ [] [] [Exposure.toUser "u2"] rfl (by decide))
  have run := filled.tail (.signal rfl)
  have due : crowd.IsDue :=
    (ExposureQueue.isDue_iff_of_sized (by decide)).mpr (.inl (by decide))
  obtain ⟨isWoken, flushes⟩ := parked_loop_is_woken_where_due run rfl rfl due
  refine ⟨_, _, run, rfl, rfl, due, isWoken, _, flushes, rfl, rfl, ?_, rfl⟩
  exact ExposureQueue.flatten_chunks _ _

end Signalling

end Switchboard
