import Switchboard.Proofs.Deployment.Background
import Switchboard.Proofs.Layer.Performing
import Switchboard.Proofs.Store.Flags

namespace Switchboard.World

/-!
# Answers of working stores

The replies of a deployment to the requests of an instance whose stores work, and the
worlds behind them, each as one equation.
-/

variable {world : World} {place : Nat} {state : Instance}

/-- The instance in a place answers its requests. -/
theorem handle_eq (present : world.instances[place]? = some state) (request : Request) :
    world.handle place request = world.answer place state request := by
  unfold handle
  rw [present]
  rfl

/-- A backend that works gives its answer. -/
theorem through_working
    {health : Health}
    {timeout : Nat}
    {refusal : ServiceError}
    {answer : World → Except ServiceError α × World}
    (working : health = .working) :
    world.through health timeout refusal answer =
      (.ofExcept (answer world).1, (answer world).2) := by
  subst working
  unfold through
  rcases answer world with ⟨outcome, later⟩
  cases outcome with
  | ok value => rfl
  | error error => rfl

/-- A backend changes by its answer only what time and what goes on meanwhile leave. -/
theorem through_keeps
    {health : Health}
    {timeout : Nat}
    {refusal : ServiceError}
    {answer : World → Except ServiceError α × World}
    {keeps : World → Prop}
    (answered : health = .working → keeps (answer world).2)
    (otherwise : ∀ later, SameStores world later → keeps later) :
    keeps (world.through health timeout refusal answer).2 := by
  cases working : health with
  | failing => exact otherwise world (.refl world)
  | hanging => exact otherwise _ (sameStores_advance world _)
  | working =>
      rw [through_working rfl]
      exact answered working

/-- Only a backend that works answers. -/
theorem working_of_answered
    {health : Health}
    {timeout : Nat}
    {refusal : ServiceError}
    {answer : World → Except ServiceError α × World}
    {value : α}
    (answered : (world.through health timeout refusal answer).1 = .answered value) :
    health = .working := by
  cases health with
  | working => rfl
  | failing => cases answered
  | hanging => cases answered

/-- What is answered is what the backend has. -/
theorem ok_of_answered
    {health : Health}
    {timeout : Nat}
    {refusal : ServiceError}
    {answer : World → Except ServiceError α × World}
    {value : α}
    (answered : (world.through health timeout refusal answer).1 = .answered value) :
    (answer world).1 = .ok value := by
  rw [through_working (working_of_answered answered)] at answered
  exact Outcome.answered_eq_ofExcept_iff.mp answered.symm

/-- The world after a statement that changed the rows; the calendar moved on. -/
def recorded (world : World) (database : Database) : World :=
  { world with database, calendar := world.calendar.next }

private theorem applyFlagWrite_eq (write : FlagWrite) (expected : Option Int64) (world : World) :
    applyFlagWrite write expected world =
      ((match (world.database.flags.apply write expected world.calendar).1 with
        | none => .ok none
        | some row => row.decode.map some),
        world.recorded {
          world.database with
          flags := (world.database.flags.apply write expected world.calendar).2 }) := by
  unfold applyFlagWrite readCalendar recorded
  by_cases accepted :
      FlagTable.applies (world.database.flags.row? write.environment write.key) expected = true
  · simp only [FlagTable.apply_accepted _ accepted]
  · simp only [FlagTable.apply_rejected _ accepted]

/-- The calendar moves on with a write, whether it applies or not. -/
theorem applyFlagWrite_snd (write : FlagWrite) (expected : Option Int64) (world : World) :
    (applyFlagWrite write expected world).2 =
      world.recorded {
        world.database with
        flags := (world.database.flags.apply write expected world.calendar).2 } :=
  congrArg Prod.snd (applyFlagWrite_eq write expected world)

/-- A write is one statement on the table. -/
theorem answer_applyFlagWrite (working : state.backends.flags = .working)
    (write : FlagWrite) (expected : Option Int64) :
    world.answer place state (.call (.applyFlagWrite write expected)) =
      ((match (world.database.flags.apply write expected world.calendar).1 with
        | none => .answered none
        | some row => .ofExcept (row.decode.map some)),
        world.recorded {
          world.database with
          flags := (world.database.flags.apply write expected world.calendar).2 }) := by
  have answered : world.answer place state (.call (.applyFlagWrite write expected)) =
      (.ofExcept (applyFlagWrite write expected world).1,
        (applyFlagWrite write expected world).2) :=
    through_working working
  rw [answered, applyFlagWrite_eq]
  cases (world.database.flags.apply write expected world.calendar).1 with
  | none => rfl
  | some row => rfl

/-- A write is answered with the flag that it names, at the version that is stored from now on. -/
theorem stored_of_applied {write : FlagWrite} {expected : Option Int64} {flag : Flag}
    {later : World}
    (applied :
      world.handle place (.call (.applyFlagWrite write expected)) =
        (.answered (some flag), later)) :
    flag.environment = write.environment ∧ flag.key = write.key ∧
      later.database.flags.version write.environment write.key = .ok (some flag.version) := by
  have working : (world.instances[place]?.getD unreachable).backends.flags = .working :=
    working_of_answered (congrArg Prod.fst applied)
  unfold handle at applied
  rw [answer_applyFlagWrite working] at applied
  obtain ⟨reply, rfl⟩ := Prod.mk.inj applied
  by_cases accepted :
      FlagTable.applies (world.database.flags.row? write.environment write.key) expected = true
  · have written := FlagTable.apply_accepted world.calendar accepted
    have stored := FlagTable.row_apply_self written
    obtain ⟨environment, key⟩ := world.database.flags.names_of_written write world.calendar
    rw [written] at reply ⊢
    generalize FlagTable.written (world.database.flags.row? write.environment write.key) write
      world.calendar = row at reply stored environment key ⊢
    cases decoded : row.decode with
    | error error => simp [decoded, Except.map, Outcome.ofExcept] at reply
    | ok other =>
        simp only [decoded, Except.map, Outcome.ofExcept, Outcome.answered.injEq,
          Option.some.injEq] at reply
        subst reply
        have holds := FlagRow.decode_eq_ok_iff.mp decoded
        refine ⟨holds.environment.trans environment, holds.key.trans key, ?_⟩
        simp [FlagTable.version, recorded, stored, FlagRow.readVersion, holds.inRange,
          holds.version, Except.map]
  · rw [FlagTable.apply_rejected world.calendar accepted] at reply
    cases reply

/-- A write that is answered with none does not apply to what is stored, and changes no flag. -/
theorem refused_of_rejected {write : FlagWrite} {expected : Option Int64}
    (rejected : (world.handle place (.call (.applyFlagWrite write expected))).1 = .answered none) :
    FlagTable.applies (world.database.flags.row? write.environment write.key) expected = false ∧
      (world.handle place (.call (.applyFlagWrite write expected))).2.database.flags =
        world.database.flags := by
  have working : (world.instances[place]?.getD unreachable).backends.flags = .working :=
    working_of_answered rejected
  unfold handle at rejected ⊢
  rw [answer_applyFlagWrite working] at rejected ⊢
  by_cases accepted :
      FlagTable.applies (world.database.flags.row? write.environment write.key) expected = true
  · rw [FlagTable.apply_accepted world.calendar accepted] at rejected
    cases decoded : (FlagTable.written
        (world.database.flags.row? write.environment write.key) write world.calendar).decode with
    | ok flag => simp [decoded, Except.map, Outcome.ofExcept] at rejected
    | error error => simp [decoded, Except.map, Outcome.ofExcept] at rejected
  · rw [FlagTable.apply_rejected world.calendar accepted]
    exact ⟨Bool.eq_false_iff.mpr accepted, rfl⟩

/-- Only a write that expects a version is answered with none. -/
theorem expects_of_rejected {write : FlagWrite} {expected : Option Int64}
    (rejected : (world.handle place (.call (.applyFlagWrite write expected))).1 = .answered none) :
    ∃ version, expected = some version := by
  obtain ⟨refused, _⟩ := refused_of_rejected rejected
  cases expected with
  | some version => exact ⟨version, rfl⟩
  | none => cases refused

/-- A flag that is given was read from the table. -/
theorem read_of_answered {environment key : String} {found : Option Flag}
    (answered : (world.handle place (.call (.readFlag environment key))).1 = .answered found) :
    world.database.flags.read environment key = .ok found := by
  have asks : world.handle place (.call (.readFlag environment key)) =
      world.through (world.instances[place]?.getD unreachable).backends.flags
        (world.instances[place]?.getD unreachable).timeout storeRefusal fun world =>
          (world.database.flags.read environment key, world) :=
    rfl
  rw [asks] at answered
  exact ok_of_answered answered

/-- An override that is given was found in the table. -/
theorem found_of_answered {scope : Scope} {now : Instant} {found : Option OverrideValue}
    (answered : (world.handle place (.call (.findOverride scope now))).1 = .answered found) :
    world.database.overrides.find scope now = .ok found := by
  have asks : world.handle place (.call (.findOverride scope now)) =
      world.through (world.instances[place]?.getD unreachable).backends.overrides
        (world.instances[place]?.getD unreachable).timeout storeRefusal fun world =>
          (world.database.overrides.find scope now, world) :=
    rfl
  rw [asks] at answered
  exact ok_of_answered answered

/-- A version that is given was read from the table. -/
theorem version_of_answered {environment key : String} {found : Option Int64}
    (answered :
      (world.handle place (.call (.readFlagVersion environment key))).1 = .answered found) :
    world.database.flags.version environment key = .ok found := by
  have asks : world.handle place (.call (.readFlagVersion environment key)) =
      world.through (world.instances[place]?.getD unreachable).backends.flags
        (world.instances[place]?.getD unreachable).timeout storeRefusal fun world =>
          (world.database.flags.version environment key, world) :=
    rfl
  rw [asks] at answered
  exact ok_of_answered answered

/-- A version that is not given for a failure is a fault of the database. -/
theorem exists_fault_of_failed {environment key : String} {error : ServiceError}
    (failed :
      (world.handle place (.call (.readFlagVersion environment key))).1 = .failed error) :
    ∃ fault, error = .database fault := by
  have asks : world.handle place (.call (.readFlagVersion environment key)) =
      world.through (world.instances[place]?.getD unreachable).backends.flags
        (world.instances[place]?.getD unreachable).timeout storeRefusal fun world =>
          (world.database.flags.version environment key, world) :=
    rfl
  rw [asks] at failed
  cases health : (world.instances[place]?.getD unreachable).backends.flags with
  | failing =>
      rw [health] at failed
      cases failed
      exact ⟨.exhausted, rfl⟩
  | hanging =>
      rw [health] at failed
      cases failed
  | working =>
      rw [through_working health] at failed
      cases stored : world.database.flags.row? environment key with
      | none => simp [FlagTable.version, stored, Outcome.ofExcept] at failed
      | some row =>
          simp only [FlagTable.version, stored, FlagRow.readVersion] at failed
          split at failed
          · cases failed
          · cases failed
            exact ⟨.unworded, rfl⟩

/-- A text that is given was held, whatever else failed. -/
theorem held_of_answered {cacheKey text : String}
    (answered : (world.handle place (.call (.cacheGet cacheKey))).1 = .answered (some text)) :
    world.held place cacheKey = some text := by
  have asks : world.handle place (.call (.cacheGet cacheKey)) =
      world.through (world.instances[place]?.getD unreachable).backends.cache
        (world.instances[place]?.getD unreachable).timeout cacheRefusal fun world =>
          (.ok (world.getCached place cacheKey).1, (world.getCached place cacheKey).2) :=
    rfl
  rw [asks] at answered
  have given : (world.getCached place cacheKey).1 = some text :=
    Except.ok.inj (ok_of_answered answered)
  unfold getCached at given
  unfold held
  cases present : world.instances[place]? with
  | none =>
      rw [present] at given
      cases given
  | some state =>
      rw [present] at given
      exact Cache.text_of_get given

section Stores

variable (present : world.instances[place]? = some state)

include present

/-- Reading the calendar moves it on. -/
theorem handle_readClock :
    world.handle place .readClock =
      (world.calendar, { world with calendar := world.calendar.next }) :=
  handle_eq present _

/-- Counting changes the metrics of the instance. -/
theorem handle_count (counter : Counter) (amount : Nat) :
    world.handle place (.count counter amount) =
      ((), world.modifyInstance place fun state =>
        { state with metrics := state.metrics.add counter amount }) :=
  handle_eq present _

section Caches

variable (working : state.backends.cache = .working)

include working

/-- The cache of the instance is read. -/
theorem handle_cacheGet (cacheKey : String) :
    world.handle place (.call (.cacheGet cacheKey)) =
      (.answered (state.cache.get cacheKey world.clock).1,
        world.putInstance place {
          state with cache := (state.cache.get cacheKey world.clock).2 }) := by
  have answered : world.answer place state (.call (.cacheGet cacheKey)) =
      world.through state.backends.cache state.timeout cacheRefusal fun world =>
        (.ok (world.getCached place cacheKey).1, (world.getCached place cacheKey).2) :=
    rfl
  rw [handle_eq present, answered, through_working working]
  simp only [getCached, present, Outcome.ofExcept]

/-- A key of the cache of the instance is set. -/
theorem handle_cacheSet (cacheKey text : String) (lifetime : Nat) :
    world.handle place (.call (.cacheSet cacheKey text lifetime)) =
      (.answered (), world.modifyCache place fun cache now =>
        cache.set cacheKey text lifetime now) := by
  have answered : world.answer place state (.call (.cacheSet cacheKey text lifetime)) =
      world.through state.backends.cache state.timeout cacheRefusal fun world =>
        (.ok (), world.modifyCache place fun cache now => cache.set cacheKey text lifetime now) :=
    rfl
  rw [handle_eq present, answered, through_working working]
  rfl

/-- A key of the cache of the instance is dropped. -/
theorem handle_cacheDelete (cacheKey : String) :
    world.handle place (.call (.cacheDelete cacheKey)) =
      (.answered (), world.modifyCache place fun cache _ => cache.erase cacheKey) := by
  have answered : world.answer place state (.call (.cacheDelete cacheKey)) =
      world.through state.backends.cache state.timeout cacheRefusal fun world =>
        (.ok (), world.modifyCache place fun cache _ => cache.erase cacheKey) :=
    rfl
  rw [handle_eq present, answered, through_working working]
  rfl

/-- What is dropped is not held. -/
theorem held_handle_cacheDelete (cacheKey : String) :
    (world.handle place (.call (.cacheDelete cacheKey))).2.held place cacheKey = none := by
  rw [handle_cacheDelete present working]
  simp [held, modifyCache, modifyInstance, present, Cache.text_erase_self]

end Caches

/-- An event is handed to the bus. -/
theorem handle_publish (working : state.backends.bus = .working)
    (topic : String) (event : Invalidation) :
    world.handle place (.call (.publish topic event)) =
      (.answered (world.bus.publish topic event).1,
        { world with bus := (world.bus.publish topic event).2 }) := by
  have answered : world.answer place state (.call (.publish topic event)) =
      world.through state.backends.bus state.timeout busRefusal fun world =>
        (.ok (world.publish topic event).1, (world.publish topic event).2) :=
    rfl
  rw [handle_eq present, answered, through_working working]
  rfl

section Flags

variable (working : state.backends.flags = .working)

include working

/-- The flag of the table is read. -/
theorem handle_readFlag (environment key : String) :
    world.handle place (.call (.readFlag environment key)) =
      (.ofExcept (world.database.flags.read environment key), world) :=
  (handle_eq present _).trans (through_working working)

/-- The version of the table is read. -/
theorem handle_readFlagVersion (environment key : String) :
    world.handle place (.call (.readFlagVersion environment key)) =
      (.ofExcept (world.database.flags.version environment key), world) :=
  (handle_eq present _).trans (through_working working)

/-- A write is one statement on the table. -/
theorem handle_applyFlagWrite (write : FlagWrite) (expected : Option Int64) :
    world.handle place (.call (.applyFlagWrite write expected)) =
      ((match (world.database.flags.apply write expected world.calendar).1 with
        | none => .answered none
        | some row => .ofExcept (row.decode.map some)),
        world.recorded {
          world.database with
          flags := (world.database.flags.apply write expected world.calendar).2 }) :=
  (handle_eq present _).trans (answer_applyFlagWrite working write expected)

end Flags

section Overrides

variable (working : state.backends.overrides = .working)

include working

/-- What the table shows of a scope is read. -/
theorem handle_findOverride (scope : Scope) (now : Instant) :
    world.handle place (.call (.findOverride scope now)) =
      (.ofExcept (world.database.overrides.find scope now), world) :=
  (handle_eq present _).trans (through_working working)

/-- A new value is one statement on the table, under a fresh identifier. -/
theorem handle_upsertOverride (scope : Scope) (value : Bool) (expiresAt : Option Instant) :
    world.handle place (.call (.upsertOverride scope value expiresAt)) =
      (.ofExcept
        (world.database.overrides.upsert world.nextId scope value expiresAt
          world.calendar).1.decode,
        { world.recorded {
            world.database with
            overrides :=
              (world.database.overrides.upsert world.nextId scope value expiresAt
                world.calendar).2 } with
          issuedIds := world.issuedIds + 1 }) :=
  (handle_eq present _).trans (through_working working)

/-- Clearing is one statement on the table. -/
theorem handle_clearOverride (scope : Scope) :
    world.handle place (.call (.clearOverride scope)) =
      (.answered (), world.recorded {
        world.database with
        overrides := world.database.overrides.softDelete scope world.calendar }) := by
  have answered : world.answer place state (.call (.clearOverride scope)) =
      world.through state.backends.overrides state.timeout storeRefusal fun world =>
        (.ok (), world.clearOverride scope) :=
    rfl
  rw [handle_eq present, answered, through_working working]
  rfl

/-- The rows that wait to be swept are listed. -/
theorem handle_listDead (now : Instant) (limit : Nat) :
    world.handle place (.listDead now limit) =
      (world.database.overrides.listDead now limit, world) :=
  (handle_eq present _).trans (if_pos working)

/-- Sweeping is one statement for each identifier. -/
theorem handle_purge (ids : List OverrideId) (now : Instant) :
    world.handle place (.purge ids now) =
      (.ok (world.database.overrides.purge now ids).1, {
        world with
        database := {
          world.database with
          overrides := (world.database.overrides.purge now ids).2 } }) :=
  (handle_eq present _).trans (if_pos working)

end Overrides

end Stores

/-- Publishing changes no rows, whatever becomes of the bus. -/
theorem sameStores_publish (present : world.instances[place]? = some state)
    (topic : String) (event : Invalidation) :
    SameStores world (world.handle place (.call (.publish topic event))).2 := by
  rw [handle_eq present]
  simp only [answer, answerCall]
  cases health : state.backends.bus with
  | working => exact .of_instances rfl rfl
  | failing => exact .refl world
  | hanging => exact sameStores_advance world _

end Switchboard.World
