import Switchboard.Proofs.Coherence.Deliveries
import Switchboard.Proofs.Deployment.Entries
import Switchboard.Proofs.Store.Statements

namespace Switchboard.World

/-!
# Reachable worlds

Whatever instances ask in whatever order, one request after the other, the rows of the
overrides are such as statements leave them.  Nothing is said about which operations the
requests belong to, so every interleaving of operations is covered.
-/

/--
What requests, deliveries and time lead to while nothing is made to fail, whatever becomes of
the events that are under way.  The calendar only ever stands at instants that a clock shows.
-/
inductive Reachable (start : World) : World → Prop where
  | start : Reachable start start
  | request {world : World} (place : Nat) (request : Request) :
      Reachable start world → Reachable start (world.handle place request).2
  | join {world : World} (settings : InstanceSettings) :
      Reachable start world → Reachable start (world.addInstance settings)
  | listen {world : World} (place : Nat) :
      Reachable start world → Reachable start (world.listen place)
  | deliver {world : World} (place : Nat) :
      Reachable start world → Reachable start (world.deliver place)
  | send {world : World} (place : Nat) (sink : Sink) (metrics : Metrics Nat)
      (delivered : Delivered) :
      Reachable start world →
        Reachable start
          ({ world with delivered }.modifyInstance place fun state => { state with sink, metrics })
  | lose {world : World} (bus : Bus) :
      Reachable start world → Reachable start { world with bus }
  | pass {world : World} (milliseconds : Nat) (calendar : Instant) :
      Reachable start world → world.calendar ≤ calendar → calendar.IsShown →
        Reachable start { world with clock := world.clock + milliseconds, calendar }

/-- A whole operation is some requests in a row. -/
theorem Reachable.perform {start world : World} (reachable : Reachable start world) (place : Nat)
    (operation : Operation α) :
    Reachable start (world.perform place operation).2 :=
  Operation.perform_keeps (World.handle place)
    (fun request _ before => before.request place request) operation reachable

variable {allowed : Scope → Prop} {world : World} {place : Nat}

/-- Every request is at most one statement on the rows of the overrides. -/
theorem step_handle (working : world.IsWorking) (place : Nat) (request : Request)
    (isAllowed : ∀ scope value expiresAt,
      request = .call (.upsertOverride scope value expiresAt) → allowed scope) :
    OverrideTable.Step allowed world.database.overrides world.calendar
      (world.handle place request).2.database.overrides
      (world.handle place request).2.calendar := by
  have effect := effect_handle world place request
  generalize (world.handle place request).2 = later at effect
  cases effect with
  | hung _ _ hangs => exact absurd hangs (working.not_hang place)
  | upserted scope value expiresAt =>
      exact .upsert world.nextId value expiresAt (isAllowed scope value expiresAt rfl)
  | cleared scope => exact .softDelete scope
  | purged ids now => exact .purge now ids
  | wrote write expected => exact .tick
  | ticked => exact .tick
  | nothing => exact .still
  | lookedUp cacheKey state present => exact .still
  | cached cacheKey text lifetime => exact .still
  | dropped cacheKey => exact .still
  | published topic event => exact .still
  | counted counter amount => exact .still
  | observed keys => exact .still
  | logged records state present => exact .still

/-! ## What joining, listening and delivering leave -/

/-- A new instance works. -/
theorem IsWorking.addInstance (working : world.IsWorking) (settings : InstanceSettings) :
    (world.addInstance settings).IsWorking := by
  intro place state present
  simp only [World.addInstance, List.getElem?_append] at present
  split at present
  · exact working place state present
  · obtain ⟨_, isNew⟩ := List.getElem?_eq_some_iff.mp present
    rw [← isNew, List.getElem_singleton]

/-- An instance that is put in its place works as before. -/
private theorem IsWorking.putInstance {changed : Instance} (working : world.IsWorking)
    (backends : changed.backends = {}) :
    (world.putInstance place changed).IsWorking := by
  intro other state present
  simp only [World.putInstance, List.getElem?_set] at present
  split at present
  · split at present
    · cases present
      exact backends
    · cases present
  · exact working other state present

theorem IsWorking.listen (working : world.IsWorking) (place : Nat) :
    (world.listen place).IsWorking := by
  unfold World.listen
  split
  · exact working
  · rename_i state present
    split
    · exact working
    · have subscribed :
          IsWorking { world with bus := (world.bus.subscribe state.service.layer.topic).2 } :=
        working
      exact subscribed.putInstance (working place state present)

/-- An instance that begins to listen writes nothing. -/
theorem rows_listen (world : World) (place : Nat) :
    (world.listen place).database = world.database ∧
      (world.listen place).calendar = world.calendar := by
  unfold World.listen
  split
  · exact ⟨rfl, rfl⟩
  · split
    · exact ⟨rfl, rfl⟩
    · exact ⟨rfl, rfl⟩

/-- A delivery writes nothing. -/
theorem rows_deliver (world : World) (place : Nat) :
    (world.deliver place).database = world.database ∧
      (world.deliver place).calendar = world.calendar := by
  unfold World.deliver
  split
  · exact ⟨rfl, rfl⟩
  · split
    · exact ⟨rfl, rfl⟩
    · exact ⟨rfl, rfl⟩

theorem IsWorking.deliver (working : world.IsWorking) (place : Nat) :
    (world.deliver place).IsWorking := by
  unfold World.deliver
  split
  · exact working
  · rename_i state present
    split
    · exact working
    · rename_i index _
      have received : IsWorking { world with bus := (world.bus.receive index).2 } := working
      exact received.putInstance
        ((backends_applyDeliveries state _).trans (working place state present))

/-- No request makes a backend fail. -/
theorem IsWorking.handle (working : world.IsWorking) (place : Nat) (request : Request) :
    (world.handle place request).2.IsWorking :=
  working.of_standings (holds_handle working place request).standings

/-- What the sink of an instance sends changes no backend. -/
theorem IsWorking.send (working : world.IsWorking) (place : Nat) (sink : Sink)
    (metrics : Metrics Nat) (delivered : Delivered) :
    ({ world with delivered }.modifyInstance place
      fun state => { state with sink, metrics }).IsWorking := by
  have handed : IsWorking { world with delivered } := working
  refine handed.of_standings fun other => ?_
  have changed : Holds nothing { world with delivered } ({ world with delivered }.modifyInstance
      place fun state => { state with sink, metrics }) :=
    .modifyInstance_ages _ place (fun _ => rfl) fun _ => .refl _
  exact changed.standings other

/-- Everything works in all reachable worlds. -/
theorem Reachable.isWorking {start : World} (reachable : Reachable start world)
    (began : start.IsWorking) : world.IsWorking := by
  induction reachable with
  | start => exact began
  | request place request _ inductionHypothesis => exact inductionHypothesis.handle place request
  | join settings _ inductionHypothesis => exact inductionHypothesis.addInstance settings
  | listen place _ inductionHypothesis => exact inductionHypothesis.listen place
  | deliver place _ inductionHypothesis => exact inductionHypothesis.deliver place
  | send place sink metrics delivered _ inductionHypothesis =>
      exact inductionHypothesis.send place sink metrics delivered
  | lose bus _ inductionHypothesis => exact inductionHypothesis
  | pass milliseconds calendar _ _ _ inductionHypothesis => exact inductionHypothesis

/-- The calendars of reachable worlds go on. -/
theorem Reachable.ordered {start : World} (reachable : Reachable start world)
    (began : start.IsWorking) : start.calendar ≤ world.calendar := by
  induction reachable with
  | start => exact Int.le_refl _
  | request place request before inductionHypothesis =>
      have step := step_handle (before.isWorking began) place request fun _ _ _ _ => trivial
      exact Int.le_trans inductionHypothesis step.ordered
  | join settings _ inductionHypothesis => exact inductionHypothesis
  | @listen world place _ inductionHypothesis =>
      rw [(world.rows_listen place).2]
      exact inductionHypothesis
  | @deliver world place _ inductionHypothesis =>
      rw [(world.rows_deliver place).2]
      exact inductionHypothesis
  | send place sink metrics delivered _ inductionHypothesis => exact inductionHypothesis
  | lose bus _ inductionHypothesis => exact inductionHypothesis
  | pass milliseconds calendar _ ordered _ inductionHypothesis =>
      exact Int.le_trans inductionHypothesis ordered

/-- A clock shows the calendars of reachable worlds. -/
theorem Reachable.isShown {start : World} (reachable : Reachable start world)
    (began : start.IsWorking)
    (startShown : start.calendar.IsShown) : world.calendar.IsShown := by
  induction reachable with
  | start => exact startShown
  | request place request before inductionHypothesis =>
      have step := step_handle (before.isWorking began) place request fun _ _ _ _ => trivial
      exact step.isShown inductionHypothesis
  | join settings _ inductionHypothesis => exact inductionHypothesis
  | @listen world place _ inductionHypothesis =>
      rw [(world.rows_listen place).2]
      exact inductionHypothesis
  | @deliver world place _ inductionHypothesis =>
      rw [(world.rows_deliver place).2]
      exact inductionHypothesis
  | send place sink metrics delivered _ inductionHypothesis => exact inductionHypothesis
  | lose bus _ inductionHypothesis => exact inductionHypothesis
  | pass milliseconds calendar _ _ isShown _ => exact isShown

/--
The rows of all reachable worlds are such as statements leave them.  While the calendar
of one has four digits in its year, so had all before it.
-/
theorem Reachable.isRecorded {start : World} (reachable : Reachable start world)
    (began : start.IsWorking)
    (noRows : start.database.overrides = {})
    (startStorable : start.calendar.IsStorable)
    (plainYear : world.calendar.HasPlainYear) :
    world.database.overrides.IsRecorded world.calendar := by
  induction reachable with
  | start =>
      rw [noRows]
      exact OverrideTable.isRecorded_empty start.calendar
  | @request world place request before inductionHypothesis =>
      have step := step_handle (before.isWorking began) place request fun _ _ _ _ => trivial
      have wasPlain :=
        startStorable.plainYear.between plainYear (before.ordered began) step.ordered
      have wasShown := before.isShown began startStorable.isShown
      exact (inductionHypothesis wasPlain).step ⟨wasPlain, wasShown⟩ step
  | join settings _ inductionHypothesis => exact inductionHypothesis plainYear
  | @listen world place _ inductionHypothesis =>
      obtain ⟨database, calendar⟩ := world.rows_listen place
      rw [calendar] at plainYear
      rw [database, calendar]
      exact inductionHypothesis plainYear
  | @deliver world place _ inductionHypothesis =>
      obtain ⟨database, calendar⟩ := world.rows_deliver place
      rw [calendar] at plainYear
      rw [database, calendar]
      exact inductionHypothesis plainYear
  | send place sink metrics delivered _ inductionHypothesis => exact inductionHypothesis plainYear
  | lose bus _ inductionHypothesis => exact inductionHypothesis plainYear
  | pass milliseconds calendar before ordered _ inductionHypothesis =>
      have wasPlain := startStorable.plainYear.between plainYear (before.ordered began) ordered
      exact (inductionHypothesis wasPlain).mono ordered

end Switchboard.World
