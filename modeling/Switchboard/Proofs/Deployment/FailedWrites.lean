import Switchboard.Proofs.Deployment.Lookups
import Switchboard.Proofs.Deployment.Reachable
import Switchboard.Proofs.Store.Shown

namespace Switchboard

/-!
# Overrides that could not be set

While everything works, two things make a new value of an override fail.  The guard
refuses before anything is written.  An expiry whose year has not four digits is found
out only when the written row is read back, and by then the row is there: it has taken
the place of the value that was in force, and no reader of the store sees either.
-/

/-- Whether a service refuses to change the override of a scope. -/
def Service.Refuses (service : Service) (scope : Scope) (administrator : Bool) : Prop :=
  service.guard.Refuses scope.key administrator

namespace World

open Cluster (standing)

/-- The same world some time later. -/
def passed (world : World) (milliseconds : Nat) (calendar : Instant) : World :=
  { world with clock := world.clock + milliseconds, calendar }

/-- What an instance answers when it is asked for an override. -/
def overrideSeen (world : World) (reader : Nat) (scope : Scope) :
    Option (Except ServiceError (Option OverrideValue)) :=
  world.instances[reader]?.map fun state =>
    (world.perform reader (state.service.getOverride scope)).1

/--
The rows are as before, and whichever instance is asked for the override at whatever later
time, it answers as if nothing had happened.
-/
structure LeavesNoTrace (scope : Scope) (before after : World) : Prop where
  rows : after.database.overrides = before.database.overrides
  reads : ∀ reader milliseconds calendar,
    (after.passed milliseconds calendar).overrideSeen reader scope =
      (before.passed milliseconds calendar).overrideSeen reader scope

variable {world : World} {place : Nat} {state : Instance} {scope : Scope}

/-! ## What is seen -/

/--
An instance whose backends work answers with what it has cached, or what the store finds.  The
instant that it takes from the calendar for that changes neither.
-/
theorem overrideSeen_of_backends (present : world.instances[place]? = some state)
    (backends : state.backends = {})
    (valid : scope.check = .ok ()) :
    world.overrideSeen place scope = some (world.overrideAt place scope world.calendar) := by
  have ticked : ({ world with calendar := world.calendar.next } : World).instances[place]? =
      some state :=
    present
  obtain ⟨later, reads, _⟩ :=
    perform_getOverrideAt ticked backends state.service.layer scope world.calendar
  have asks := perform_getOverride present state.service.layer scope
  rw [reads] at asks
  have checked : Operation.perform (World.handle place) (Operation.require scope.check) world =
      (.ok (), world) := by
    rw [valid]
    rfl
  have performs : world.perform place (state.service.getOverride scope) = _ :=
    (Operation.perform_bind_ok _ _ checked).trans asks
  unfold overrideSeen
  rw [present]
  exact congrArg some (congrArg Prod.fst performs)

theorem overrideSeen_eq (working : world.IsWorking) (valid : scope.check = .ok ())
    (reader : Nat) :
    world.overrideSeen reader scope =
      world.instances[reader]?.map fun _ => world.overrideAt reader scope world.calendar := by
  cases present : world.instances[reader]? with
  | none =>
      unfold overrideSeen
      rw [present]
      rfl
  | some state => exact overrideSeen_of_backends present (working reader state present) valid

/-- What lookups give depends on nothing of an instance but its cache. -/
private theorem overrideAt_modifyInstance {change : Instance → Instance}
    (same : ∀ state, (change state).cache = state.cache)
    (reader : Nat) (now : Instant) :
    (world.modifyInstance place change).overrideAt reader scope now =
      world.overrideAt reader scope now := by
  have givenSame (cacheKey : String) :
      (world.modifyInstance place change).given reader cacheKey =
        world.given reader cacheKey :=
    given_modifyInstance (fun state => by rw [same]) reader
  unfold overrideAt cachedOverride
  rw [givenSame]
  rfl

/-- Counting leaves no trace. -/
private theorem leavesNoTrace_modifyInstance {change : Instance → Instance}
    (working : world.IsWorking)
    (valid : scope.check = .ok ())
    (same : ∀ state, standing (change state) = standing state)
    (caches : ∀ state, (change state).cache = state.cache) :
    LeavesNoTrace scope world (world.modifyInstance place change) where
  rows := rfl
  reads reader milliseconds calendar := by
    have later : (world.passed milliseconds calendar).IsWorking := working
    have ages (state : Instance) : Cache.Ages state.cache (change state).cache := by
      rw [caches]
      exact .refl state.cache
    have changes : Holds nothing (world.passed milliseconds calendar)
        ((world.passed milliseconds calendar).modifyInstance place change) :=
      .modifyInstance_ages _ place same ages
    have changed := later.of_standings changes.standings
    have seen := overrideSeen_eq changed valid reader
    rw [overrideAt_modifyInstance caches] at seen
    refine seen.trans ((overrideSeen_eq later valid reader).trans ?_).symm
    simp only [modifyInstance, List.getElem?_modify, Option.map_eq_map, Option.map_map]
    rfl

/-! ## How a new value ends -/

/-- A refused call counts the attempt and does nothing else. -/
private theorem perform_setOverride_refused
    {administrator : Bool}
    (present : world.instances[place]? = some state)
    (refuses : state.service.Refuses scope administrator)
    (value : Bool) (expiresAt : Option Instant) :
    world.perform place (state.service.setOverride scope value expiresAt administrator) =
      (.error (.forbidden scope.key), world.modifyInstance place fun state =>
        { state with metrics := state.metrics.add ⟨.forbiddenAttempts, []⟩ 1 }) := by
  have refused : state.service.guard.check scope.key administrator =
      .error (.forbidden scope.key) :=
    Guard.check_of_refuses refuses
  have counts := handle_count present ⟨.forbiddenAttempts, []⟩ 1
  unfold World.perform Service.setOverride
  rw [Service.run_of_unauthorized refused]
  simp only [Program.run, counts]

/-- A change of a valid scope that is not refused is authorized at once. -/
theorem perform_authorize {service : Service} {administrator : Bool}
    (allowed : ¬service.Refuses scope administrator)
    (valid : scope.check = .ok ()) :
    world.perform place (service.authorize scope administrator) = (.ok (), world) := by
  have passes : service.guard.check scope.key administrator = .ok () :=
    Guard.check_of_not_refuses allowed
  unfold Service.authorize
  rw [passes, valid]
  rfl

/-- Writing a row is one statement, which ends as the row is read back. -/
theorem perform_statement (present : world.instances[place]? = some state)
    (backends : state.backends = {})
    (scope : Scope) (value : Bool) (expiresAt : Option Instant) :
    Operation.perform (World.handle place) (Operation.call (.upsertOverride scope value expiresAt))
      world = world.upsertOverride scope value expiresAt := by
  have written : world.handle place (.call (.upsertOverride scope value expiresAt)) =
      (.ofExcept (world.upsertOverride scope value expiresAt).1,
        (world.upsertOverride scope value expiresAt).2) :=
    handle_upsertOverride present (congrArg Backends.overrides backends) scope value expiresAt
  have writes := perform_call_of_answer (.upsertOverride scope value expiresAt) _
    (congrArg Prod.fst written)
  rw [writes, written]

/-- Dropping an entry and publishing the news do not fail while the backends work. -/
private theorem perform_invalidate (present : world.instances[place]? = some state)
    (backends : state.backends = {})
    (layer : Layer) (cacheKey : String) (event : Invalidation) :
    (Operation.perform (World.handle place) (layer.invalidate cacheKey event) world).1 =
      .ok () := by
  have dropped := handle_cacheDelete present (congrArg Backends.cache backends) cacheKey
  have drops := perform_call_of_answer (.cacheDelete cacheKey) (.ok ()) (congrArg Prod.fst dropped)
  have dropAttempted := Operation.perform_attempt (World.handle place)
    (Operation.call (.cacheDelete cacheKey)) world
  rw [drops] at dropAttempted
  obtain ⟨changed, changedPresent, stillBackends⟩ :=
    Cluster.isUp_handle ⟨state, present, backends⟩ (.call (.cacheDelete cacheKey))
  have told := handle_publish changedPresent (congrArg Backends.bus stillBackends) layer.topic
    event
  have tells := perform_call_of_answer (.publish layer.topic event) (.ok _)
    (congrArg Prod.fst told)
  have tellAttempted := Operation.perform_attempt (World.handle place)
    (Operation.call (.publish layer.topic event))
    (world.handle place (.call (.cacheDelete cacheKey))).2
  rw [tells] at tellAttempted
  unfold Layer.invalidate
  rw [Operation.perform_bind_ok _ _ dropAttempted, Operation.perform_bind_ok _ _ tellAttempted,
    Operation.perform_bind_ok _ _ (Operation.perform_count _ _ _)]
  rfl

/-- Announcing a change does not fail while the backends work. -/
theorem perform_announceOverride (present : world.instances[place]? = some state)
    (backends : state.backends = {}) (layer : Layer) (scope : Scope) :
    (Operation.perform (World.handle place) (layer.announceOverride scope) world).1 = .ok () := by
  have shown := handle_readClock present
  have ticked : ({ world with calendar := world.calendar.next } : World).instances[place]? =
      some state :=
    present
  unfold Layer.announceOverride
  rw [Operation.perform_bind_ok _ _ (Operation.perform_ask _ _ _), shown]
  exact perform_invalidate ticked backends layer _ _

/-- A row that is not read back fails the write, and stays. -/
private theorem perform_upsertOverride_unread
    {value : Bool} {expiresAt : Option Instant} {error : ServiceError}
    (present : world.instances[place]? = some state)
    (backends : state.backends = {})
    (layer : Layer)
    (unread : (world.upsertOverride scope value expiresAt).1 = .error error) :
    world.perform place (layer.upsertOverride scope value expiresAt) =
      (.error error, (world.upsertOverride scope value expiresAt).2) := by
  have writes := perform_statement present backends scope value expiresAt
  rw [← Prod.eta (world.upsertOverride scope value expiresAt), unread] at writes
  exact Operation.perform_bind_error _ _ writes

/-- A row that is read back makes the write succeed. -/
private theorem perform_upsertOverride_read
    {value : Bool} {expiresAt : Option Instant} {stored : Override}
    (present : world.instances[place]? = some state)
    (backends : state.backends = {})
    (layer : Layer)
    (read : (world.upsertOverride scope value expiresAt).1 = .ok stored) :
    (world.perform place (layer.upsertOverride scope value expiresAt)).1 = .ok stored := by
  have writes := perform_statement present backends scope value expiresAt
  rw [← Prod.eta (world.upsertOverride scope value expiresAt), read] at writes
  have writtenPresent :
      (world.upsertOverride scope value expiresAt).2.instances[place]? = some state := present
  have announces := perform_announceOverride writtenPresent backends layer scope
  have performs : world.perform place (layer.upsertOverride scope value expiresAt) = _ :=
    Operation.perform_bind_ok _ _ writes
  rw [performs, Operation.perform_bind]
  generalize Operation.perform _ (layer.announceOverride scope) _ = announced at announces ⊢
  obtain ⟨outcome, later⟩ := announced
  cases announces
  rfl

/-- A call that is not refused ends as the written row is read back. -/
private theorem perform_setOverride_eq
    {administrator : Bool}
    (present : world.instances[place]? = some state)
    (backends : state.backends = {})
    (valid : scope.check = .ok ())
    (allowed : ¬state.service.Refuses scope administrator)
    (value : Bool) (expiresAt : Option Instant) :
    (world.perform place (state.service.setOverride scope value expiresAt administrator)).1 =
        (world.upsertOverride scope value expiresAt).1 ∧
      ∀ error, (world.upsertOverride scope value expiresAt).1 = .error error →
        (world.perform place
            (state.service.setOverride scope value expiresAt administrator)).2 =
          (world.upsertOverride scope value expiresAt).2 := by
  have goesOn : world.perform place
      (state.service.setOverride scope value expiresAt administrator) =
        world.perform place (state.service.layer.upsertOverride scope value expiresAt) :=
    Operation.perform_bind_ok _ _ (perform_authorize allowed valid)
  rw [goesOn]
  cases read : (world.upsertOverride scope value expiresAt).1 with
  | ok stored =>
      exact ⟨perform_upsertOverride_read present backends _ read, fun _ failed => by cases failed⟩
  | error error =>
      rw [perform_upsertOverride_unread present backends _ read]
      exact ⟨rfl, fun _ _ => rfl⟩

/-! ## What a failed write leaves -/

/--
Where a new value is written and not read back, no instance sees the scope any more but
those that still have an earlier value cached; so the answers that change are those of the
others, as long as the earlier value would have been in force.
-/
private theorem overrideSeen_of_unread
    (working : world.IsWorking)
    (recorded : world.database.overrides.IsRecorded world.calendar)
    (valid : scope.check = .ok ())
    {value : Bool} {expiresAt : Option Instant}
    (notPlain : ∃ expiry ∈ expiresAt, ¬expiry.HasPlainYear)
    {reader : Nat} (inRange : reader < world.instances.length)
    (milliseconds : Nat) {calendar : Instant} (storable : calendar.IsStorable) :
    ((world.upsertOverride scope value expiresAt).2.passed milliseconds calendar).overrideSeen
          reader scope ≠
        (world.passed milliseconds calendar).overrideSeen reader scope ↔
      (world.passed milliseconds calendar).cachedOverride reader scope = none ∧
        ∃ shown, world.database.overrides.find scope calendar = .ok (some shown) := by
  obtain ⟨state, present⟩ : ∃ state, world.instances[reader]? = some state :=
    ⟨_, List.getElem?_eq_getElem inRange⟩
  have seen (between : World) (works : between.IsWorking)
      (stands : between.instances[reader]? = some state) :
      between.overrideSeen reader scope =
        some (between.overrideAt reader scope between.calendar) := by
    rw [overrideSeen_eq works valid, stands]
    rfl
  have before := seen (world.passed milliseconds calendar) working present
  have after := seen ((world.upsertOverride scope value expiresAt).2.passed milliseconds calendar)
    working present
  have hidden : (world.upsertOverride scope value expiresAt).2.database.overrides.find scope
      calendar = .ok none :=
    OverrideTable.find_upsert_of_not_hasPlainYear notPlain storable.plainYear world.nextId scope
      value
  obtain ⟨state?, finds, _⟩ := recorded.find_eq scope
  rw [before, after]
  unfold overrideAt
  rw [show ((world.upsertOverride scope value expiresAt).2.passed milliseconds
    calendar).cachedOverride reader scope =
      (world.passed milliseconds calendar).cachedOverride reader scope from rfl]
  cases (world.passed milliseconds calendar).cachedOverride reader scope with
  | some copy => exact iff_of_false (fun differs => differs rfl) fun missed => by cases missed.1
  | none =>
      show some ((world.upsertOverride scope value expiresAt).2.database.overrides.find scope
        calendar) ≠ some (world.database.overrides.find scope calendar) ↔ _
      rw [hidden, finds calendar storable]
      cases state?.filter fun state => state.isActive calendar with
      | none => simp
      | some shown => simp

/--
Setting an override for a valid scope fails, while everything works, exactly when the guard
refuses it or its expiry has a year that has not four digits.  A refused call leaves no
trace.  Any other call that fails leaves one: the rows have changed, and every instance that
has not cached the value that was in force misses it from then on.
-/
theorem failed_override_write_leaves_no_trace_iff
    {start : World}
    (began : start.IsWorking)
    (noRows : start.database.overrides = {})
    (startStorable : start.calendar.IsStorable)
    (reachable : Reachable start world)
    (storable : world.calendar.IsStorable)
    (present : world.instances[place]? = some state)
    (valid : scope.check = .ok ())
    (value : Bool)
    (expiresAt : Option Instant)
    (administrator : Bool) :
    let call := state.service.setOverride scope value expiresAt administrator
    let outcome := (world.perform place call).1
    let later := (world.perform place call).2
    let refused := state.service.Refuses scope administrator
    ((∃ error, outcome = .error error) ↔ refused ∨ ∃ expiry ∈ expiresAt, ¬expiry.HasPlainYear) ∧
      (∀ error, outcome = .error error → (LeavesNoTrace scope world later ↔ refused)) ∧
        (∀ error, outcome = .error error → ¬refused →
          ∀ reader < world.instances.length, ∀ milliseconds, ∀ calendar : Instant,
            calendar.IsStorable →
              ((later.passed milliseconds calendar).overrideSeen reader scope ≠
                  (world.passed milliseconds calendar).overrideSeen reader scope ↔
                (world.passed milliseconds calendar).cachedOverride reader scope = none ∧
                  ∃ shown,
                    world.database.overrides.find scope calendar = .ok (some shown))) := by
  intro call outcome later refused
  have working := reachable.isWorking began
  have recorded := reachable.isRecorded began noRows startStorable storable.plainYear
  obtain ⟨reads, unreads⟩ :=
    recorded.decode_upsert storable world.nextId scope value expiresAt
  by_cases refuses : refused
  · have ends := perform_setOverride_refused present refuses value expiresAt
    have traceless : LeavesNoTrace scope world later := by
      show LeavesNoTrace scope world (world.perform place call).2
      rw [ends]
      exact leavesNoTrace_modifyInstance working valid (fun _ => rfl) fun _ => rfl
    refine ⟨iff_of_true ⟨_, congrArg Prod.fst ends⟩ (.inl refuses), ?_, ?_⟩
    · exact fun error failed => iff_of_true traceless refuses
    · exact fun error failed allowed => absurd refuses allowed
  · obtain ⟨sameOutcome, sameWorld⟩ :=
      perform_setOverride_eq present (working place state present) valid refuses value expiresAt
    by_cases notPlain : ∃ expiry ∈ expiresAt, ¬expiry.HasPlainYear
    · have unread := unreads notPlain
      have fails : outcome = .error (.internal "Invalid expires_at") := sameOutcome.trans unread
      have written : later = (world.upsertOverride scope value expiresAt).2 := sameWorld _ unread
      rw [written]
      refine ⟨iff_of_true ⟨_, fails⟩ (.inr notPlain), fun error _ => ?_, ?_⟩
      · have rewritten := recorded.upsert_ne storable world.nextId scope value expiresAt
        exact iff_of_false (fun traceless => rewritten traceless.rows) refuses
      · intro error _ _ reader inRange milliseconds calendar calendarStorable
        exact overrideSeen_of_unread working recorded valid notPlain inRange milliseconds
          calendarStorable
    · obtain ⟨stored, read⟩ := reads (by simpa using notPlain)
      have succeeds : outcome = .ok stored := sameOutcome.trans read
      rw [succeeds]
      refine ⟨iff_of_false nofun (not_or.mpr ⟨refuses, notPlain⟩), nofun, nofun⟩

namespace Lapsing

/-- The scope of the override. -/
def target : Scope :=
  .user "prod" "beta.search" "u1"

/-- A database without rows, before an instance joins and turns a flag on for a user. -/
def start : World where
  calendar := .mayDay

/-- The service of the instance. -/
def service : Service :=
  InstanceSettings.service {}

/-- The flag is on for the user. -/
def enabled : World :=
  ((start.addInstance {}).perform 0 (service.setOverride target true none false)).2

/-- The first instant whose year has five digits. -/
def expiry : Instant :=
  .startOf ⟨10000, 1, 1, by decide⟩

end Lapsing

open Lapsing in
/-- The flag is on for the user until the write that fails, and not after it. -/
theorem failed_override_write_leaves_no_trace_iff_lapsing :
    Reachable start enabled ∧ target.check = .ok () ∧
      ∃ state error, enabled.instances[0]? = some state ∧
        let failed := enabled.perform 0
          (state.service.setOverride target false (some expiry) false)
        failed.1 = .error error ∧ ¬LeavesNoTrace target enabled failed.2 ∧
          (failed.2.passed 0 .mayDay).overrideSeen 0 target ≠
            (enabled.passed 0 .mayDay).overrideSeen 0 target := by
  have reachable : Reachable start enabled := (Reachable.start.join {}).perform 0 _
  have valid : target.check = .ok () := by rfl
  have served : enabled.instances[0]?.map Instance.service = some service := by decide +kernel
  obtain ⟨state, present, isService⟩ := Option.map_eq_some_iff.mp served
  have allowed : ¬state.service.Refuses target false := by
    rw [isService]
    exact fun refuses => absurd refuses.1 (by decide)
  have began : start.IsWorking := isWorking_of_no_instances rfl
  obtain ⟨fails, leaves, misses⟩ := failed_override_write_leaves_no_trace_iff began rfl (by decide)
    reachable (by decide +kernel) present valid false (some expiry) false
  obtain ⟨error, failed⟩ := fails.mpr (.inr ⟨expiry, rfl, by decide⟩)
  refine ⟨reachable, valid, state, error, present, failed, ?_, ?_⟩
  · exact fun traceless => allowed ((leaves error failed).mp traceless)
  · have uncached : (enabled.passed 0 .mayDay).cachedOverride 0 target = none := by
      decide +kernel
    have inForce : enabled.database.overrides.find target .mayDay = .ok (some ⟨true, none⟩) := by
      rfl
    have inRange : 0 < enabled.instances.length := by decide +kernel
    have missed := misses error failed allowed 0 inRange 0 .mayDay (by decide)
    exact missed.mpr ⟨uncached, _, inForce⟩

end World

end Switchboard
