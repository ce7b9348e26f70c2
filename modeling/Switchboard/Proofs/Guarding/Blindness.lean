import Switchboard.Proofs.Deployment.Answers

namespace Switchboard

/-!
# Blindness to refused attempts

Two worlds that differ in how many refused attempts each instance has counted, and in nothing
else, cannot be told apart: every request is answered alike, background work does the same in
both, and the worlds behind differ as they did.
-/

/-- The counter of the refused attempts. -/
def attemptsCounter : Counter :=
  ⟨.forbiddenAttempts, []⟩

/-! ## Metrics -/

/-- The same is counted, but for some more refused attempts. -/
structure Metrics.SameBut (extra : Nat) (kept full : Metrics Nat) : Prop where
  attempts : full.amount attemptsCounter = kept.amount attemptsCounter + extra
  others : ∀ counter, counter ≠ attemptsCounter →
    full.counters.lookup counter = kept.counters.lookup counter
  batchKeys : full.batchKeys = kept.batchKeys

namespace Metrics.SameBut

variable {extra : Nat} {kept full : Metrics Nat}

theorem refl (metrics : Metrics Nat) : SameBut 0 metrics metrics where
  attempts := rfl
  others _ _ := rfl
  batchKeys := rfl

theorem amount_eq (same : SameBut extra kept full) {counter : Counter}
    (isOther : counter ≠ attemptsCounter) :
    full.amount counter = kept.amount counter := by
  unfold Metrics.amount
  rw [same.others counter isOther]

theorem add (same : SameBut extra kept full) (counter : Counter) (more : Nat) :
    SameBut extra (kept.add counter more) (full.add counter more) where
  attempts := by
    by_cases isAttempts : counter = attemptsCounter
    · subst isAttempts
      rw [amount_add, amount_add, same.attempts]
      exact Nat.add_right_comm _ _ _
    · rw [amount_add_other _ _ (Ne.symm isAttempts), amount_add_other _ _ (Ne.symm isAttempts)]
      exact same.attempts
  others other isOther := by
    by_cases isHere : other = counter
    · subst isHere
      simp [Metrics.add, same.amount_eq isOther]
    · rw [lookup_add_other _ _ isHere, lookup_add_other _ _ isHere]
      exact same.others other isOther
  batchKeys := same.batchKeys

theorem observeBatch (same : SameBut extra kept full) (keys : Nat) :
    SameBut extra (kept.observeBatch keys) (full.observeBatch keys) where
  attempts := same.attempts
  others := same.others
  batchKeys := congrArg (·.observe keys) same.batchKeys

/-- One of the two counts another attempt. -/
theorem attempted (same : SameBut extra kept full) :
    SameBut (extra + 1) kept (full.add attemptsCounter 1) where
  attempts := by
    rw [amount_add, same.attempts]
    rfl
  others other isOther := by
    rw [lookup_add_other _ _ isOther]
    exact same.others other isOther
  batchKeys := same.batchKeys

end Metrics.SameBut

/-! ## Sinks -/

/-- Records end up alike, and the same is counted but for some more refused attempts. -/
structure SinkOutput.SameBut (extra : Nat) (kept full : SinkOutput) : Prop where
  delivered : full.delivered = kept.delivered
  metrics : kept.metrics.SameBut extra full.metrics

namespace Sink

variable {extra : Nat} {kept full : SinkOutput}

private theorem flush_blind (sink : Sink) (same : kept.SameBut extra full) :
    (sink.flush full).1 = (sink.flush kept).1 ∧ (sink.flush full).2.1 = (sink.flush kept).2.1 ∧
      (sink.flush kept).2.2.SameBut extra (sink.flush full).2.2 := by
  cases waiting : sink.queue with
  | none => simp [flush, waiting, same]
  | some queue =>
      simp only [flush, waiting, SinkOutput.sendChunks_deliver, same.delivered]
      exact ⟨trivial, trivial, rfl, same.metrics.add _ _⟩

theorem log_blind (sink : Sink) (batch : List Exposure) (same : kept.SameBut extra full) :
    (sink.log batch full).1 = (sink.log batch kept).1 ∧
      (sink.log batch full).2.1 = (sink.log batch kept).2.1 ∧
        (sink.log batch kept).2.2.SameBut extra (sink.log batch full).2.2 := by
  cases waiting : sink.queue with
  | none =>
      simp only [log, waiting, SinkOutput.deliver, same.delivered]
      exact ⟨trivial, trivial, rfl, same.metrics⟩
  | some queue =>
      simp only [log, waiting]
      rcases queue.accept batch with ⟨outcome, later⟩
      cases outcome with
      | error error => exact ⟨rfl, rfl, same⟩
      | ok dropped => exact ⟨rfl, rfl, same.delivered, same.metrics.add _ _⟩

theorem settle_blind (sink : Sink) (clock : Nat) (same : kept.SameBut extra full) :
    (sink.settle clock full).1 = (sink.settle clock kept).1 ∧
      (sink.settle clock kept).2.SameBut extra (sink.settle clock full).2 := by
  unfold settle
  split
  · obtain ⟨_, sent, output⟩ :=
      flush_blind { sink with queue := sink.queue.map ExposureQueue.takePermit } same
    simp only [round, sent]
    exact ⟨trivial, output⟩
  · exact ⟨rfl, same⟩

end Sink

/-! ## Worlds -/

/-- The same instance, or none, but for some more refused attempts. -/
inductive Instance.SameBut (extra : Nat) : Option Instance → Option Instance → Prop where
  | absent : SameBut extra none none
  | present (state : Instance) (metrics : Metrics Nat) :
      state.metrics.SameBut extra metrics →
        SameBut extra (some state) (some { state with metrics })

/--
The same rows, events, records and clocks, and the same instances, but for some more refused
attempts in each place.
-/
structure World.SameBut (extra : Nat → Nat) (kept full : World) : Prop where
  rest : full = { kept with instances := full.instances }
  instances : ∀ place : Nat,
    Instance.SameBut (extra place) kept.instances[place]? full.instances[place]?

namespace World.SameBut

variable {extra : Nat → Nat} {kept full : World} {place : Nat}

theorem refl (world : World) : SameBut (fun _ => 0) world world where
  rest := rfl
  instances place := by
    cases world.instances[place]? with
    | none => exact .absent
    | some state => exact .present state state.metrics (.refl _)

theorem exists_eq (same : SameBut extra kept full) :
    ∃ instances, full = { kept with instances } :=
  ⟨full.instances, same.rest⟩

/-- In each place both worlds have an instance, or none. -/
theorem found (same : SameBut extra kept full) (place : Nat) :
    (kept.instances[place]? = none ∧ full.instances[place]? = none) ∨
      ∃ state metrics, kept.instances[place]? = some state ∧
        full.instances[place]? = some { state with metrics } ∧
          state.metrics.SameBut (extra place) metrics := by
  have here := same.instances place
  generalize kept.instances[place]? = keptState, full.instances[place]? = fullState at here
  cases here with
  | absent => exact .inl ⟨rfl, rfl⟩
  | present state metrics counted => exact .inr ⟨state, metrics, rfl, rfl, counted⟩

theorem length_eq (same : SameBut extra kept full) :
    full.instances.length = kept.instances.length := by
  have absent (place : Nat) :
      full.instances.length ≤ place ↔ kept.instances.length ≤ place := by
    rw [← List.getElem?_eq_none_iff, ← List.getElem?_eq_none_iff]
    rcases same.found place with ⟨none, fullNone⟩ | ⟨state, metrics, present, fullPresent, _⟩
    · rw [none, fullNone]
    · rw [present, fullPresent]
      simp
  exact Nat.le_antisymm ((absent _).mpr (Nat.le_refl _)) ((absent _).mp (Nat.le_refl _))

/-- What goes on besides the instances may change, alike in both worlds. -/
theorem aside (same : SameBut extra kept full) (change : World → World)
    (commutes : ∀ (world : World) (instances : List Instance),
      change { world with instances } = { change world with instances }) :
    SameBut extra (change kept) (change full) := by
  have changed := commutes kept full.instances
  rw [← same.rest] at changed
  have unchanged := commutes kept kept.instances
  rw [changed, unchanged]
  exact ⟨rfl, same.instances⟩

/-- The instance in a place changes alike in both worlds. -/
theorem modifyInstance (same : SameBut extra kept full) {change : Instance → Instance}
    (alike : ∀ (state : Instance) (metrics : Metrics Nat),
      state.metrics.SameBut (extra place) metrics →
        ∃ later, change { state with metrics } = { change state with metrics := later } ∧
          (change state).metrics.SameBut (extra place) later) :
    SameBut extra (kept.modifyInstance place change) (full.modifyInstance place change) where
  rest := by
    rw [same.rest]
    rfl
  instances other := by
    simp only [World.modifyInstance, List.getElem?_modify]
    rcases same.found other with ⟨none, fullNone⟩ | ⟨state, metrics, present, fullPresent, counted⟩
    · rw [none, fullNone]
      exact .absent
    · rw [present, fullPresent]
      by_cases here : place = other
      · subst here
        obtain ⟨later, changed, laterCounted⟩ := alike state metrics counted
        simp only [↓reduceIte, Option.map_eq_map, Option.map_some, changed]
        exact .present _ later laterCounted
      · simp only [here, ↓reduceIte]
        exact .present state metrics counted

/-- Instances that are alike are put into a place of both worlds. -/
theorem putInstance (same : SameBut extra kept full) {state : Instance}
    {metrics : Metrics Nat}
    (counted : place < kept.instances.length → state.metrics.SameBut (extra place) metrics) :
    SameBut extra (kept.putInstance place state)
      (full.putInstance place { state with metrics }) where
  rest := by
    rw [same.rest]
    rfl
  instances other := by
    simp only [World.putInstance, List.getElem?_set, same.length_eq]
    by_cases here : place = other
    · subst here
      by_cases inRange : place < kept.instances.length
      · simp only [inRange, ↓reduceIte]
        exact .present state metrics (counted inRange)
      · simp only [inRange, ↓reduceIte]
        exact .absent
    · simp only [here, ↓reduceIte]
      exact same.instances other

end World.SameBut

namespace World

/-- Work that leaves two worlds as different as they were. -/
def IsBlind (work : World → World) : Prop :=
  ∀ ⦃extra : Nat → Nat⦄ ⦃kept full : World⦄, SameBut extra kept full →
    SameBut extra (work kept) (work full)

/-- Answers that are the same in both worlds, and leave them as different as they were. -/
def AnswersBlindly (answer : World → α × World) : Prop :=
  ∀ ⦃extra : Nat → Nat⦄ ⦃kept full : World⦄, SameBut extra kept full →
    (answer full).1 = (answer kept).1 ∧ SameBut extra (answer kept).2 (answer full).2

/-! ### Background work -/

theorem isBlind_aside {change : World → World}
    (commutes : ∀ (world : World) (instances : List Instance),
      change { world with instances } = { change world with instances }) :
    IsBlind change :=
  fun _ _ _ same => same.aside change commutes

theorem isBlind_foldl {work : World → Nat → World} (each : ∀ place, IsBlind (work · place))
    (places : List Nat) :
    IsBlind (places.foldl work) := by
  intro extra kept full same
  induction places generalizing kept full with
  | nil => exact same
  | cons place rest inductionHypothesis => exact inductionHypothesis (each place same)

theorem isBlind_drainListener (place : Nat) : IsBlind (drainListener · place) := by
  intro extra kept full same
  obtain ⟨instances, rfl⟩ := same.exists_eq
  unfold drainListener
  rcases same.found place with ⟨none, fullNone⟩ | ⟨state, metrics, present, fullPresent, counted⟩
  · simp only [none, fullNone]
    exact same
  · obtain ⟨service, cache, sink, timeout, counts, backends, listener⟩ := state
    simp only [present, fullPresent]
    cases listener with
    | none => exact same
    | some receiver =>
        have drained : SameBut extra { kept with bus := (kept.bus.drain receiver).2 }
            { kept with instances, bus := (kept.bus.drain receiver).2 } :=
          ⟨rfl, same.instances⟩
        unfold Instance.applyDeliveries
        cases backends.cache with
        | working => exact drained.putInstance fun _ => counted
        | failing => exact drained.putInstance fun _ => counted
        | hanging => exact drained.putInstance fun _ => counted

theorem isBlind_settleSink (place : Nat) : IsBlind (settleSink · place) := by
  intro extra kept full same
  obtain ⟨instances, rfl⟩ := same.exists_eq
  unfold settleSink
  rcases same.found place with ⟨none, fullNone⟩ | ⟨state, metrics, present, fullPresent, counted⟩
  · simp only [none, fullNone]
    exact same
  · have outputs : SinkOutput.SameBut (extra place)
        ⟨kept.delivered, state.metrics⟩ ⟨kept.delivered, metrics⟩ :=
      ⟨rfl, counted⟩
    obtain ⟨sent, sentOutputs⟩ := state.sink.settle_blind kept.clock outputs
    simp only [present, fullPresent, sent, sentOutputs.delivered]
    generalize state.sink.settle kept.clock ⟨kept.delivered, state.metrics⟩ = settled
      at sentOutputs ⊢
    have handed : SameBut extra { kept with delivered := settled.2.delivered }
        { kept with instances, delivered := settled.2.delivered } :=
      ⟨rfl, same.instances⟩
    exact handed.putInstance fun _ => sentOutputs.metrics

theorem SameBut.deadlineOf_eq {extra : Nat → Nat} {kept full : World}
    (same : SameBut extra kept full) (place : Nat) :
    full.deadlineOf place = kept.deadlineOf place := by
  unfold deadlineOf
  rcases same.found place with ⟨none, fullNone⟩ | ⟨state, metrics, present, fullPresent, _⟩
  · rw [none, fullNone]
  · rw [present, fullPresent]
    rfl

/-- Timers fire in the order of their deadlines, which no metrics have a part in. -/
theorem isBlind_settle : IsBlind settle := by
  intro extra kept full same
  have listened : SameBut extra
      ((List.range kept.instances.length).foldl drainListener kept)
      ((List.range full.instances.length).foldl drainListener full) := by
    rw [same.length_eq]
    exact isBlind_foldl isBlind_drainListener _ same
  have order : firingOrder ((List.range full.instances.length).foldl drainListener full) =
      firingOrder ((List.range kept.instances.length).foldl drainListener kept) := by
    simp only [firingOrder, listened.length_eq, listened.deadlineOf_eq]
  simp only [settle, order]
  exact isBlind_foldl isBlind_settleSink _ listened

theorem isBlind_advance (milliseconds : Nat) : IsBlind (advance · milliseconds) := by
  intro extra kept full same
  obtain ⟨instances, rfl⟩ := same.exists_eq
  have ticked : SameBut extra { kept with clock := kept.clock + milliseconds }
      { kept with instances, clock := kept.clock + milliseconds } :=
    ⟨rfl, same.instances⟩
  exact isBlind_settle ticked

theorem isBlind_modifyInstance (place : Nat) (change : Instance → Instance)
    (commutes : ∀ (state : Instance) (metrics : Metrics Nat),
      change { state with metrics } = { change state with metrics })
    (keeps : ∀ state, (change state).metrics = state.metrics) :
    IsBlind (modifyInstance · place change) :=
  fun _ _ _ same => same.modifyInstance fun state metrics counted =>
    ⟨metrics, commutes state metrics, (keeps state).symm ▸ counted⟩

theorem isBlind_shutdown (place : Nat) : IsBlind (shutdown · place) := by
  intro extra kept full same
  have closed : IsBlind fun world => world.modifyInstance place fun state =>
      { state with sink := state.sink.shutdown } :=
    isBlind_modifyInstance place _ (fun _ _ => rfl) fun _ => rfl
  exact isBlind_settle (closed same)

/-! ### Answers -/

/-- An answer that leaves the instances out. -/
theorem answersBlindly_aside {answer : World → α × World}
    (commutes : ∀ (world : World) (instances : List Instance),
      answer { world with instances } =
        ((answer world).1, { (answer world).2 with instances })) :
    AnswersBlindly answer := by
  intro extra kept full same
  obtain ⟨instances, rfl⟩ := same.exists_eq
  have changed := commutes kept instances
  have unchanged : answer kept = ((answer kept).1, { (answer kept).2 with
      instances := kept.instances }) :=
    commutes kept kept.instances
  rw [changed]
  refine ⟨rfl, ?_⟩
  rw [congrArg Prod.snd unchanged]
  exact ⟨rfl, same.instances⟩

theorem answersBlindly_through {answer : World → Except ServiceError α × World}
    (blind : AnswersBlindly answer)
    (health : Health) (timeout : Nat) (refusal : ServiceError) :
    AnswersBlindly fun world => world.through health timeout refusal answer := by
  intro extra kept full same
  cases health with
  | failing => exact ⟨rfl, same⟩
  | hanging => exact ⟨rfl, isBlind_advance (timeout + 1) same⟩
  | working =>
      obtain ⟨sameOutcome, later⟩ := blind same
      simp only [through_working]
      exact ⟨congrArg Outcome.ofExcept sameOutcome, later⟩

private theorem answersBlindly_getCached (place : Nat) (key : String) :
    AnswersBlindly (getCached place key) := by
  intro extra kept full same
  obtain ⟨instances, rfl⟩ := same.exists_eq
  unfold getCached
  rcases same.found place with ⟨none, fullNone⟩ | ⟨state, metrics, present, fullPresent, counted⟩
  · simp only [none, fullNone]
    exact ⟨trivial, same⟩
  · simp only [present, fullPresent]
    exact ⟨trivial, same.putInstance fun _ => counted⟩

private theorem answersBlindly_modifyCache (place : Nat) (change : Cache → Nat → Cache)
    (value : α) :
    AnswersBlindly fun world => (value, world.modifyCache place change) := by
  intro extra kept full same
  obtain ⟨instances, rfl⟩ := same.exists_eq
  exact ⟨rfl, same.modifyInstance fun state metrics counted => ⟨metrics, rfl, counted⟩⟩

private theorem applyFlagWrite_commutes (write : FlagWrite) (expected : Option Int64)
    (world : World) (instances : List Instance) :
    applyFlagWrite write expected { world with instances } =
      ((applyFlagWrite write expected world).1,
        { (applyFlagWrite write expected world).2 with instances }) := by
  simp only [applyFlagWrite, readCalendar]
  rcases world.database.flags.apply write expected world.calendar with ⟨row?, flags⟩
  cases row? with
  | none => rfl
  | some row => rfl

/-- Calls are answered alike, whatever the instance that asks has counted. -/
private theorem answersBlindly_answerCall (state : Instance) (place : Nat) (asked : Call) :
    AnswersBlindly fun world => world.answerCall state place asked := by
  cases asked with
  | cacheGet key =>
      refine answersBlindly_through (fun extra kept full same => ?_) _ _ _
      obtain ⟨sameText, later⟩ := answersBlindly_getCached place key same
      exact ⟨congrArg Except.ok sameText, later⟩
  | cacheSet key value lifetime =>
      exact answersBlindly_through (answersBlindly_modifyCache place _ _) _ _ _
  | cacheDelete key =>
      exact answersBlindly_through (answersBlindly_modifyCache place _ _) _ _ _
  | publish topic event =>
      exact answersBlindly_through (answersBlindly_aside fun _ _ => rfl) _ _ _
  | readFlag environment key =>
      exact answersBlindly_through (answersBlindly_aside fun _ _ => rfl) _ _ _
  | applyFlagWrite write expected =>
      exact answersBlindly_through
        (answersBlindly_aside (applyFlagWrite_commutes write expected)) _ _ _
  | readFlagVersion environment key =>
      exact answersBlindly_through (answersBlindly_aside fun _ _ => rfl) _ _ _
  | findOverride scope now =>
      exact answersBlindly_through (answersBlindly_aside fun _ _ => rfl) _ _ _
  | upsertOverride scope value expiresAt =>
      exact answersBlindly_through (answersBlindly_aside fun _ _ => rfl) _ _ _
  | clearOverride scope =>
      exact answersBlindly_through (answersBlindly_aside fun _ _ => rfl) _ _ _

/-- The instance that answers in a place is the same, but for some more refused attempts. -/
private theorem SameBut.answering {extra : Nat → Nat} {kept full : World}
    (same : SameBut extra kept full) (place : Nat) :
    ∃ (metrics : Metrics Nat) (more : Nat),
      full.instances[place]?.getD unreachable =
          { kept.instances[place]?.getD unreachable with metrics } ∧
        (kept.instances[place]?.getD unreachable).metrics.SameBut more metrics ∧
          (place < kept.instances.length → more = extra place) := by
  rcases same.found place with ⟨none, fullNone⟩ | ⟨state, metrics, present, fullPresent, counted⟩
  · refine ⟨unreachable.metrics, 0, by rw [none, fullNone]; rfl, by rw [none]; exact .refl _, ?_⟩
    intro inRange
    exact absurd inRange (Nat.not_lt.mpr (List.getElem?_eq_none_iff.mp none))
  · exact ⟨metrics, extra place, by rw [present, fullPresent]; rfl, by rw [present]; exact counted,
      fun _ => rfl⟩

private theorem logExposures_blind {extra : Nat → Nat} {kept full : World} {place more : Nat}
    {metrics : Metrics Nat}
    (same : SameBut extra kept full)
    (state : Instance)
    (counted : state.metrics.SameBut more metrics)
    (isExtra : place < kept.instances.length → more = extra place)
    (records : List Exposure) :
    let keptAnswer := kept.logExposures state place records
    let fullAnswer := full.logExposures { state with metrics } place records
    fullAnswer.1 = keptAnswer.1 ∧ SameBut extra keptAnswer.2 fullAnswer.2 := by
  obtain ⟨instances, rfl⟩ := same.exists_eq
  have outputs : SinkOutput.SameBut more ⟨kept.delivered, state.metrics⟩
      ⟨kept.delivered, metrics⟩ :=
    ⟨rfl, counted⟩
  obtain ⟨outcome, sink, sentOutputs⟩ := state.sink.log_blind records outputs
  simp only [logExposures, outcome, sink, sentOutputs.delivered]
  generalize state.sink.log records ⟨kept.delivered, state.metrics⟩ = logged at sentOutputs ⊢
  have handed : SameBut extra { kept with delivered := logged.2.2.delivered }
      { kept with instances, delivered := logged.2.2.delivered } :=
    ⟨rfl, same.instances⟩
  refine ⟨trivial, handed.putInstance fun inRange => ?_⟩
  exact isExtra inRange ▸ sentOutputs.metrics

/-- No request tells how many attempts were refused. -/
theorem answersBlindly_handle (place : Nat) (request : Request) :
    AnswersBlindly (handle place request) := by
  intro extra kept full same
  obtain ⟨metrics, more, answering, counted, isExtra⟩ := same.answering place
  unfold handle
  rw [answering]
  generalize kept.instances[place]?.getD unreachable = state at counted ⊢
  cases request with
  | call asked => exact answersBlindly_answerCall state place asked same
  | logExposures records => exact logExposures_blind same state counted isExtra records
  | readClock => exact answersBlindly_aside (fun _ _ => rfl) same
  | count counter amount =>
      exact ⟨rfl, same.modifyInstance fun _ _ here => ⟨_, rfl, here.add counter amount⟩⟩
  | observeBatch keys =>
      exact ⟨rfl, same.modifyInstance fun _ _ here => ⟨_, rfl, here.observeBatch keys⟩⟩
  | listDead now limit =>
      obtain ⟨instances, rfl⟩ := same.exists_eq
      simp only [answer]
      split
      · exact ⟨rfl, same⟩
      · exact ⟨rfl, same⟩
  | purge ids now =>
      obtain ⟨instances, rfl⟩ := same.exists_eq
      simp only [answer]
      split
      · exact ⟨rfl, rfl, same.instances⟩
      · exact ⟨rfl, same⟩

/-- An attempt that is refused is counted, and that is all that it does. -/
theorem SameBut.attempted {extra : Nat → Nat} {kept full : World}
    (same : SameBut extra kept full) (place : Nat) :
    SameBut (fun other => if other = place then extra other + 1 else extra other) kept
      (full.handle place (.count attemptsCounter 1)).2 where
  rest := by
    obtain ⟨instances, rfl⟩ := same.exists_eq
    rfl
  instances other := by
    show Instance.SameBut _ kept.instances[other]?
      (full.instances.modify place fun state =>
        { state with metrics := state.metrics.add attemptsCounter 1 })[other]?
    rw [List.getElem?_modify]
    rcases same.found other with ⟨none, fullNone⟩ | ⟨state, metrics, present, fullPresent, counted⟩
    · rw [none, fullNone]
      exact .absent
    · rw [present, fullPresent]
      by_cases here : other = place
      · subst here
        simp only [↓reduceIte, Option.map_eq_map, Option.map_some]
        exact .present state _ counted.attempted
      · simp only [here, Ne.symm here, ↓reduceIte]
        exact .present state metrics counted

end World

end Switchboard
