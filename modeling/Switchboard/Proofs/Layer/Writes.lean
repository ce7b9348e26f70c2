import Switchboard.Proofs.Layer.Backing
import Switchboard.Proofs.Store.Faults

namespace Switchboard.Backing

open Surroundings

/-!
# Writes through the cache

A write changes the rows, then drops the entry of what was written and publishes the
news.  Where it ends with an error that is no version conflict, the entry may have
stayed; in every other case that changed a row it is gone before the news went out.
-/

variable {State : Type} {backing : Backing State} {state : State}

private theorem perform_cacheDelete (cacheKey : String) (up : backing.isUp state) :
    ∃ (answer : Except ServiceError Unit) (later : State),
      Operation.perform backing.handle (Operation.call (.cacheDelete cacheKey)) state =
          (answer, later) ∧
        backing.Quiet state later ∧ (IsSettled answer → backing.Dropped later cacheKey) := by
  obtain ⟨quiet, dropped, noConflict⟩ := backing.cacheDelete state cacheKey up
  have counted := backing.quiet_of_call quiet.isUp
  have outcome := backing.outcome_of_call (.cacheDelete cacheKey) state
  refine ⟨(Operation.perform backing.handle (Operation.call (.cacheDelete cacheKey)) state).1,
    (Operation.perform backing.handle (Operation.call (.cacheDelete cacheKey)) state).2, rfl,
    leaves_of_call quiet, ?_⟩
  intro settled text given
  rw [outcome] at settled
  cases reply : (backing.handle (.call (.cacheDelete cacheKey)) state).1 with
  | answered value => exact dropped reply text (counted.entries cacheKey text given)
  | failed error =>
      rw [reply] at settled
      have conflict := settled error rfl
      rw [noConflict error reply] at conflict
      cases conflict
  | timedOut =>
      rw [reply] at settled
      have conflict := settled _ rfl
      cases conflict

private theorem perform_publish (topic : String) (event : Invalidation) (up : backing.isUp state) :
    ∃ (answer : Except ServiceError Nat) (told later : State),
      Operation.perform backing.handle (Operation.call (.publish topic event)) state =
          (answer, later) ∧
        backing.published topic event state told ∧ backing.Quiet told later := by
  have published := backing.publish state topic event up
  have isUp := backing.published_isUp _ _ _ _ published
  exact ⟨(Operation.perform backing.handle (Operation.call (.publish topic event)) state).1, _,
    (Operation.perform backing.handle (Operation.call (.publish topic event)) state).2, rfl,
    published, quiet_of_call isUp⟩

/-- Dropping the entry and publishing the news fails only if the entry could not be dropped. -/
theorem invalidate_spec (layer : Layer) (event : Invalidation) (up : backing.isUp state) :
    ∃ (outcome : Except ServiceError Unit) (later : State),
      Operation.perform backing.handle (layer.invalidate event.cacheKey event) state =
          (outcome, later) ∧
        backing.Invalidates layer.topic event (backing.database state) state later outcome := by
  obtain ⟨dropped, erased, deletes, quietDelete, isDropped⟩ :=
    perform_cacheDelete event.cacheKey up
  obtain ⟨answer, told, announced, publishes, published, quietTold⟩ :=
    perform_publish layer.topic event quietDelete.isUp
  have attemptedDelete := Operation.perform_attempt backing.handle
    (Operation.call (.cacheDelete event.cacheKey)) state
  have attemptedPublish := Operation.perform_attempt backing.handle
    (Operation.call (.publish layer.topic event)) erased
  rw [deletes] at attemptedDelete
  rw [publishes] at attemptedPublish
  obtain ⟨counted, counts⟩ :
      ∃ counted,
        (match answer with
          | .ok _ => Operation.perform backing.handle
              (Operation.count ⟨.invalidationsPublished, [event.eventType]⟩) announced
          | .error _ => Operation.perform backing.handle
              (Operation.count ⟨.invalidationFailures, []⟩) announced) = (.ok (), counted) ∧
          backing.Quiet announced counted := by
    cases answer with
    | ok reached => exact ⟨_, Operation.perform_count _ _ _, backing.count _ _ _ quietTold.isUp⟩
    | error error => exact ⟨_, Operation.perform_count _ _ _, backing.count _ _ _ quietTold.isUp⟩
  obtain ⟨counts, quietCount⟩ := counts
  refine ⟨dropped, counted, ?_, erased, told, quietDelete, published,
    quiet_trans quietTold quietCount, isDropped⟩
  unfold Layer.invalidate
  rw [Operation.perform_bind_ok _ _ attemptedDelete, Operation.perform_bind_ok _ _ attemptedPublish]
  cases answer with
  | ok reached =>
      simp only at counts ⊢
      rw [Operation.perform_bind_ok _ _ counts]
      cases dropped with
      | ok value => rfl
      | error error => rfl
  | error error =>
      simp only at counts ⊢
      rw [Operation.perform_bind_ok _ _ counts]
      cases dropped with
      | ok value => rfl
      | error error => rfl

private theorem invalidates_of_leaves
    {topic : String}
    {event : Invalidation}
    {database : Database}
    {first second third : State}
    {outcome : Except ServiceError α}
    {later : Except ServiceError β}
    (leaves : backing.Leaves database first second)
    (invalidates :
      backing.Invalidates topic event (backing.database second) second third outcome)
    (settles : IsSettled later → IsSettled outcome) :
    backing.Invalidates topic event database first third later := by
  obtain ⟨erased, told, quiet, published, quietTold, dropped⟩ := invalidates
  exact ⟨erased, told, leaves_quiet leaves quiet, published, quietTold,
    fun settled => dropped (settles settled)⟩

private theorem not_isSettled {error : ServiceError} (noConflict : error.isConflict = false) :
    ¬IsSettled (Except.error error : Except ServiceError α) := by
  intro settled
  have conflict := settled error rfl
  rw [noConflict] at conflict
  cases conflict

private theorem perform_then_pure
    {operation : Operation α}
    {later : State}
    {outcome : Except ServiceError α}
    (value : β)
    (ended : Operation.perform backing.handle operation state = (outcome, later)) :
    Operation.perform backing.handle (operation >>= fun _ => pure value) state =
      (outcome.map fun _ => value, later) := by
  cases outcome with
  | ok result => exact Operation.perform_bind_ok _ _ ended
  | error error => exact Operation.perform_bind_error _ _ ended

private theorem isSettled_of_map {outcome : Except ServiceError α} {change : α → β}
    (settled : IsSettled (outcome.map change)) :
    IsSettled outcome := by
  intro error failed
  apply settled error
  rw [failed]
  rfl

/-- The news carry the instant at which they are made, which no key depends on. -/
theorem perform_announce
    (layer : Layer)
    (event : Instant → Invalidation)
    (cacheKey : String)
    (keyed : ∀ now, (event now).cacheKey = cacheKey)
    (up : backing.isUp state) :
    ∃ (outcome : Except ServiceError Unit) (later : State) (told : Invalidation),
      Operation.perform backing.handle
          (do
            let now : Instant ← Operation.ask .readClock
            layer.invalidate cacheKey (event now))
          state =
        (outcome, later) ∧
        told.cacheKey = cacheKey ∧
          backing.Invalidates layer.topic told (backing.database state) state later outcome := by
  obtain ⟨shown, quietClock⟩ := backing.readClock state up
  obtain ⟨outcome, later, ended, invalidates⟩ :=
    invalidate_spec layer (event (backing.calendar state)) quietClock.isUp
  rw [keyed] at ended
  refine ⟨outcome, later, event (backing.calendar state), ?_, keyed _, ?_⟩
  · rw [Operation.perform_bind_ok _ _ (Operation.perform_ask _ _ _), shown]
    exact ended
  · exact invalidates_of_leaves quietClock
      (quietClock.database ▸ invalidates) fun settled => settled

private theorem perform_rejectWrite (write : FlagWrite) (expected : Option Int64)
    (up : backing.isUp state) :
    ∃ (error : ServiceError) (later : State),
      Operation.perform backing.handle (Layer.rejectWrite write expected) state =
          (.error error, later) ∧
        backing.Quiet state later := by
  have quiet := leaves_of_call
    (backing.readFlagVersion state write.environment write.key up)
  unfold Layer.rejectWrite
  cases ended : Operation.perform backing.handle
      (Operation.call (.readFlagVersion write.environment write.key)) state with
  | mk answer read =>
      rw [ended] at quiet
      cases answer with
      | error error => exact ⟨error, read, Operation.perform_bind_error _ _ ended, quiet⟩
      | ok actual =>
          have counted := backing.count read ⟨.versionConflicts, []⟩ 1 quiet.isUp
          refine ⟨.versionConflict write.environment write.key (expected.getD 0) actual, _, ?_,
            quiet_trans quiet counted⟩
          rw [Operation.perform_bind_ok _ _ ended,
            Operation.perform_bind_ok _ _ (Operation.perform_count _ _ _)]
          rfl

private theorem perform_applyFlagWrite (write : FlagWrite) (expected : Option Int64)
    (up : backing.isUp state) :
    let applied := (backing.database state).flags.apply write expected (backing.calendar state)
    ∃ later,
      Operation.perform backing.handle (Operation.call (.applyFlagWrite write expected)) state =
          (match applied.1 with
            | none => .ok none
            | some row => row.decode.map some, later) ∧
        backing.Leaves { backing.database state with flags := applied.2 } state later := by
  obtain ⟨replied, leaves⟩ := backing.applyFlagWrite state write expected up
  refine ⟨_, Prod.ext ?_ rfl, leaves_of_call leaves⟩
  rw [outcome_of_call, replied]
  cases ((backing.database state).flags.apply write expected (backing.calendar state)).1 with
  | none => rfl
  | some row => exact Outcome.toExcept_ofExcept _ _

/--
What a write of a flag does: nothing where it meets another version; the rows change
and that is all where the written row cannot be read; else the entry goes and the news
are published.
-/
theorem writeFlag_spec (layer : Layer) (write : FlagWrite) (expected : Option Int64)
    (up : backing.isUp state) :
    let applied := (backing.database state).flags.apply write expected (backing.calendar state)
    let database := { backing.database state with flags := applied.2 }
    ∃ (outcome : Except ServiceError Flag) (later : State),
      Operation.perform backing.handle (layer.writeFlag write expected) state =
          (outcome, later) ∧
        ((applied.1 = none ∧ (∃ error, outcome = .error error) ∧ backing.Quiet state later) ∨
          ∃ row, applied.1 = some row ∧
            ((∃ error, row.decode = .error error ∧ ¬IsSettled outcome ∧
                backing.Leaves database state later) ∨
              ∃ flag event, row.decode = .ok flag ∧
                event.cacheKey = flagCacheKey write.environment write.key ∧
                  backing.Invalidates layer.topic event database state later outcome)) := by
  intro applied database
  obtain ⟨stored, writes, leaves⟩ := perform_applyFlagWrite write expected up
  unfold Layer.writeFlag
  by_cases accepted :
      FlagTable.applies ((backing.database state).flags.row? write.environment write.key) expected =
        true
  · have applies := FlagTable.apply_accepted (backing.calendar state) accepted
    obtain ⟨environment, key⟩ :=
      (backing.database state).flags.names_of_written write (backing.calendar state)
    generalize FlagTable.written ((backing.database state).flags.row? write.environment write.key)
      write (backing.calendar state) = row at applies environment key
    have isRow : applied.1 = some row := congrArg Prod.fst applies
    rw [congrArg Prod.fst applies] at writes
    dsimp only at writes
    cases decoded : row.decode with
    | error error =>
        rw [decoded] at writes
        have noConflict := (FlagRow.isRowFault_of_decode decoded).isConflict
        exact ⟨.error error, stored, Operation.perform_bind_error _ _ writes,
          .inr ⟨row, isRow, .inl ⟨error, decoded, not_isSettled noConflict, leaves⟩⟩⟩
    | ok flag =>
        rw [decoded] at writes
        have holds := FlagRow.decode_eq_ok_iff.mp decoded
        obtain ⟨outcome, later, told, announces, keyed, invalidates⟩ :=
          perform_announce layer (.flagUpdated flag.environment flag.key flag.version)
            (flagCacheKey flag.environment flag.key) (fun _ => rfl) leaves.isUp
        refine ⟨outcome.map fun _ => flag, later, ?_, .inr ⟨row, isRow, .inr
          ⟨flag, told, decoded, ?_, invalidates_of_leaves leaves
            (leaves.database ▸ invalidates) isSettled_of_map⟩⟩⟩
        · have ended := perform_then_pure flag announces
          rw [Operation.perform_bind_ok _ _ writes]
          simpa only [bind_assoc] using ended
        · rw [keyed, holds.environment, holds.key, environment, key]
  · have rejects := FlagTable.apply_rejected (backing.calendar state) accepted
    have nothing : applied.1 = none := congrArg Prod.fst rejects
    have unchanged : database = backing.database state := by
      simp only [database, applied, rejects]
    rw [congrArg Prod.fst rejects] at writes
    have quiet : backing.Leaves database state stored := leaves
    rw [unchanged] at quiet
    obtain ⟨error, rejected, fails, quietReject⟩ := perform_rejectWrite write expected quiet.isUp
    refine ⟨.error error, rejected, ?_, .inl ⟨nothing, ⟨error, rfl⟩,
      quiet_trans quiet quietReject⟩⟩
    exact (Operation.perform_bind_ok _ _ writes).trans fails

/--
What a new value of an override does: the rows change and that is all where the
written row cannot be read; else the entry goes and the news are published.
-/
theorem upsertOverride_spec (layer : Layer) (scope : Scope) (value : Bool)
    (expiresAt : Option Instant) (up : backing.isUp state) :
    ∃ (id : OverrideId) (outcome : Except ServiceError Override) (later : State),
      Operation.perform backing.handle (layer.upsertOverride scope value expiresAt) state =
          (outcome, later) ∧
        let applied :=
          (backing.database state).overrides.upsert id scope value expiresAt
            (backing.calendar state)
        let database := { backing.database state with overrides := applied.2 }
        (∃ error, applied.1.decode = .error error ∧ ¬IsSettled outcome ∧
            backing.Leaves database state later) ∨
          ∃ event, event.cacheKey = overrideCacheKey scope ∧
            backing.Invalidates layer.topic event database state later outcome := by
  obtain ⟨id, replied, leaves⟩ := backing.upsertOverride state scope value expiresAt up
  have written := leaves_of_call leaves
  have ended := backing.perform_call_eq (.upsertOverride scope value expiresAt) state
  rw [replied, Outcome.toExcept_ofExcept] at ended
  unfold Layer.upsertOverride
  cases decoded :
      ((backing.database state).overrides.upsert id scope value expiresAt
        (backing.calendar state)).1.decode with
  | error error =>
      rw [decoded] at ended
      have noConflict := (OverrideRow.isRowFault_of_decode decoded).isConflict
      exact ⟨id, .error error, _, Operation.perform_bind_error _ _ ended,
        .inl ⟨error, decoded, not_isSettled noConflict, written⟩⟩
  | ok stored =>
      rw [decoded] at ended
      obtain ⟨outcome, later, told, announces, keyed, invalidates⟩ :=
        perform_announce layer (.overrideChanged scope) (overrideCacheKey scope)
          (fun _ => rfl) written.isUp
      refine ⟨id, outcome.map fun _ => stored, later, ?_, .inr ⟨told, keyed,
        invalidates_of_leaves written (written.database ▸ invalidates) isSettled_of_map⟩⟩
      rw [Operation.perform_bind_ok _ _ ended]
      exact perform_then_pure stored announces

/-- What clearing an override does: the rows change, the entry goes, the news are published. -/
theorem clearOverride_spec (layer : Layer) (scope : Scope) (up : backing.isUp state) :
    ∃ (outcome : Except ServiceError Unit) (later : State) (event : Invalidation),
      Operation.perform backing.handle (layer.clearOverride scope) state = (outcome, later) ∧
        event.cacheKey = overrideCacheKey scope ∧
          backing.Invalidates layer.topic event
            { backing.database state with
              overrides :=
                (backing.database state).overrides.softDelete scope (backing.calendar state) }
            state later outcome := by
  obtain ⟨replied, leaves⟩ := backing.clearOverride state scope up
  have written := leaves_of_call leaves
  have ended := backing.perform_call_eq (.clearOverride scope) state
  rw [replied] at ended
  obtain ⟨outcome, later, told, announces, keyed, invalidates⟩ :=
    perform_announce layer (.overrideChanged scope) (overrideCacheKey scope)
      (fun _ => rfl) written.isUp
  refine ⟨outcome, later, told, ?_, keyed,
    invalidates_of_leaves written (written.database ▸ invalidates) fun settled => settled⟩
  unfold Layer.clearOverride
  exact (Operation.perform_bind_ok _ _ ended).trans announces

/-- What a sweep does: nothing, or it removes rows that wait for it. -/
theorem sweep_spec (now : Instant) (limit : Nat) (up : backing.isUp state) :
    ∃ (outcome : Except ServiceError Nat) (later : State) (ids : List OverrideId),
      Operation.perform backing.handle (Layer.sweep now limit) state = (outcome, later) ∧
        backing.Leaves
          { backing.database state with
            overrides := ((backing.database state).overrides.purge now ids).2 }
          state later := by
  have quiet := backing.listDead state now limit up
  unfold Layer.sweep
  rw [Operation.perform_bind_ok _ _ (Operation.perform_ask _ _ _)]
  cases listed : (backing.handle (.listDead now limit) state).1 with
  | error error =>
      exact ⟨.error error, _, [],
        Operation.perform_bind_error _ _ (Operation.perform_known _ _ _), quiet⟩
  | ok dead =>
      rw [Operation.perform_bind_ok _ _ (Operation.perform_known _ _ _)]
      by_cases none : dead.isEmpty = true
      · refine ⟨.ok 0, _, [], ?_, quiet⟩
        rw [if_pos none]
        rfl
      · have purged :=
          backing.purge (backing.handle (.listDead now limit) state).2 (dead.map Override.id) now
            quiet.isUp
        rw [quiet.database] at purged
        refine ⟨(backing.handle (.purge (dead.map Override.id) now)
          (backing.handle (.listDead now limit) state).2).1, _, dead.map Override.id, ?_,
          leaves_trans quiet purged⟩
        rw [if_neg none, Operation.perform_bind_ok _ _ (Operation.perform_ask _ _ _)]
        exact Operation.perform_known _ _ _

end Switchboard.Backing
