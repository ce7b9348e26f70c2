import Switchboard.Proofs.Deployment.Effects
import Switchboard.Proofs.Store.Sweeps

namespace Switchboard.World

/-!
# Sweeps of a deployment

Whatever was asked before, and whatever failed, the rows are such as statements leave them,
under identifiers of which none was given twice.  A sweep makes progress exactly when it reads
every row that it lists; one with an expiry in a year of more than four digits stops it, and
all sweeps after it that list the row.
-/

/--
The rows of the overrides and the identifiers stay, and the calendar does not go back.  It
shows instants, as long as it did.
-/
structure Meanwhile (before after : World) : Prop where
  overrides : after.database.overrides = before.database.overrides
  issuedIds : after.issuedIds = before.issuedIds
  calendar : before.calendar ≤ after.calendar
  isShown : before.calendar.IsShown → after.calendar.IsShown

/-- What a request does to the rows of the overrides. -/
inductive Statement (world : World) : World → Prop where
  | nothing {after : World} (meanwhile : Meanwhile world after) : Statement world after
  | upsert (scope : Scope) (value : Bool) (expiresAt : Option Instant) :
      Statement world (world.upsertOverride scope value expiresAt).2
  | clear (scope : Scope) : Statement world (world.clearOverride scope)
  | purge (ids : List OverrideId) (now : Instant) : Statement world (world.purge ids now).2

/--
What requests of any instances lead to, however their backends fare.  Between two requests
anything may happen but a change of the rows, and the calendar may move on.
-/
inductive Served (start : World) : World → Prop where
  | start : Served start start
  | request {world : World} (place : Nat) (request : Request) :
      Served start world → Served start (world.handle place request).2
  | meanwhile {world later : World} :
      Served start world → Meanwhile world later → Served start later

variable {start world later : World} {place : Nat} {state : Instance}

namespace Meanwhile

theorem refl (world : World) : Meanwhile world world where
  overrides := rfl
  issuedIds := rfl
  calendar := Int.le_refl _
  isShown := id

theorem trans {first second third : World} (earlier : Meanwhile first second)
    (later : Meanwhile second third) :
    Meanwhile first third where
  overrides := later.overrides.trans earlier.overrides
  issuedIds := later.issuedIds.trans earlier.issuedIds
  calendar := Int.le_trans earlier.calendar later.calendar
  isShown := later.isShown ∘ earlier.isShown

private theorem keptInBackground : KeptInBackground Meanwhile where
  refl := refl
  trans := trans
  listens _ _ _ := ⟨rfl, rfl, Int.le_refl _, id⟩
  sends _ := ⟨rfl, rfl, Int.le_refl _, id⟩

/-- Time that passes writes nothing. -/
theorem advance (world : World) (milliseconds : Nat) :
    Meanwhile world (world.advance milliseconds) :=
  have ticked : Meanwhile world { world with clock := world.clock + milliseconds } :=
    ⟨rfl, rfl, Int.le_refl _, id⟩
  ticked.trans (keptInBackground.settle _)

end Meanwhile

/-! ## Requests and statements -/

/-- Every request is at most one statement on the rows of the overrides. -/
theorem statement_handle (world : World) (place : Nat) (request : Request) :
    Statement world (world.handle place request).2 := by
  have effect := effect_handle world place request
  generalize (world.handle place request).2 = later at effect
  cases effect with
  | upserted scope value expiresAt => exact .upsert scope value expiresAt
  | cleared scope => exact .clear scope
  | purged ids now => exact .purge ids now
  | nothing => exact .nothing (.refl world)
  | hung _ milliseconds _ => exact .nothing (.advance world milliseconds)
  | wrote write expected => exact .nothing ⟨rfl, rfl, world.calendar.le_next, .next⟩
  | ticked => exact .nothing ⟨rfl, rfl, world.calendar.le_next, .next⟩
  | lookedUp cacheKey state present => exact .nothing ⟨rfl, rfl, Int.le_refl _, id⟩
  | cached cacheKey text lifetime => exact .nothing ⟨rfl, rfl, Int.le_refl _, id⟩
  | dropped cacheKey => exact .nothing ⟨rfl, rfl, Int.le_refl _, id⟩
  | published topic event => exact .nothing ⟨rfl, rfl, Int.le_refl _, id⟩
  | counted counter amount => exact .nothing ⟨rfl, rfl, Int.le_refl _, id⟩
  | observed keys => exact .nothing ⟨rfl, rfl, Int.le_refl _, id⟩
  | logged records state present => exact .nothing ⟨rfl, rfl, Int.le_refl _, id⟩

/-- A whole operation is some requests in a row. -/
theorem Served.perform (served : Served start world) (place : Nat) (operation : Operation α) :
    Served start (world.perform place operation).2 :=
  Operation.perform_keeps (World.handle place)
    (fun request _ before => before.request place request) operation served

/-! ## What is true of the rows -/

/--
The rows are such as statements leave them, and fewer identifiers were issued since the start
than microseconds have passed.
-/
structure IsAccounted (start world : World) : Prop where
  recorded : world.database.overrides.IsRecorded world.calendar
  deletions : world.database.overrides.HasReadDeletions
  numbered : world.database.overrides.IsNumbered start.issuedIds world.issuedIds
  pace : (world.issuedIds : Int) - start.issuedIds ≤
    world.calendar.micros - start.calendar.micros

/-- No statement takes the calendar back. -/
theorem Statement.ordered (statement : Statement world later) :
    world.calendar ≤ later.calendar := by
  cases statement with
  | nothing meanwhile => exact meanwhile.calendar
  | upsert scope value expiresAt => exact world.calendar.le_next
  | clear scope => exact world.calendar.le_next
  | purge ids now => exact Int.le_refl _

/-- A statement leaves a calendar that a clock shows at an instant that one shows. -/
theorem Statement.isShown (statement : Statement world later)
    (isShown : world.calendar.IsShown) : later.calendar.IsShown := by
  cases statement with
  | nothing meanwhile => exact meanwhile.isShown isShown
  | upsert scope value expiresAt => exact isShown.next
  | clear scope => exact isShown.next
  | purge ids now => exact isShown

/-- The calendar goes on as long as requests are served. -/
theorem Served.ordered (served : Served start world) : start.calendar ≤ world.calendar := by
  induction served with
  | start => exact Int.le_refl _
  | request place request _ inductionHypothesis =>
      exact Int.le_trans inductionHypothesis (statement_handle _ place request).ordered
  | meanwhile _ passed inductionHypothesis =>
      exact Int.le_trans inductionHypothesis passed.calendar

/-- A clock shows the calendar as long as requests are served. -/
theorem Served.isShown (served : Served start world) (startShown : start.calendar.IsShown) :
    world.calendar.IsShown := by
  induction served with
  | start => exact startShown
  | request place request _ inductionHypothesis =>
      exact (statement_handle _ place request).isShown inductionHypothesis
  | meanwhile _ passed inductionHypothesis => exact passed.isShown inductionHypothesis

/-- What leaves the rows and the identifiers alone leaves what is true of them. -/
theorem IsAccounted.meanwhile (accounted : start.IsAccounted world)
    (passed : Meanwhile world later) :
    start.IsAccounted later where
  recorded := passed.overrides ▸ accounted.recorded.mono passed.calendar
  deletions := passed.overrides ▸ accounted.deletions
  numbered := by
    rw [passed.overrides, passed.issuedIds]
    exact accounted.numbered
  pace := by
    have slow := accounted.pace
    have moved := Instant.micros_le_micros passed.calendar
    rw [passed.issuedIds]
    omega

/--
Every statement leaves such rows.  The one that issues an identifier takes a microsecond, and
storable instants are fewer microseconds apart than there are identifiers.
-/
theorem IsAccounted.statement (accounted : start.IsAccounted world)
    (startStorable : start.calendar.IsStorable)
    (storable : world.calendar.IsStorable)
    (statement : Statement world later) :
    start.IsAccounted later := by
  have slow := accounted.pace
  have ticked := Instant.micros_lt_micros_next storable.plainYear.2
  cases statement with
  | nothing passed => exact accounted.meanwhile passed
  | upsert scope value expiresAt =>
      have step : OverrideTable.Step (fun _ => True) world.database.overrides world.calendar
          (world.upsertOverride scope value expiresAt).2.database.overrides
          world.calendar.next :=
        .upsert world.nextId value expiresAt trivial
      have room : world.issuedIds < start.issuedIds + 16 ^ (32 : Nat) := by
        have low := startStorable.plainYear.micros_bounds.1
        have high := storable.plainYear.micros_bounds.2
        omega
      exact {
        recorded := accounted.recorded.step storable step
        deletions := accounted.deletions.step storable step
        numbered := accounted.numbered.upsert accounted.recorded.onePerScope room scope value
          expiresAt world.calendar
        pace := by
          show ((world.issuedIds + 1 : Nat) : Int) - start.issuedIds ≤
            world.calendar.next.micros - start.calendar.micros
          omega }
  | clear scope =>
      have step : OverrideTable.Step (fun _ => True) world.database.overrides world.calendar
          (world.clearOverride scope).database.overrides world.calendar.next :=
        .softDelete scope
      exact {
        recorded := accounted.recorded.step storable step
        deletions := accounted.deletions.step storable step
        numbered := accounted.numbered.of_sublist <| by
          show (world.database.overrides.softDelete scope world.calendar).ids.Sublist _
          rw [OverrideTable.ids_softDelete]
        pace := by
          show (world.issuedIds : Int) - start.issuedIds ≤
            world.calendar.next.micros - start.calendar.micros
          omega }
  | purge ids now =>
      have step : OverrideTable.Step (fun _ => True) world.database.overrides world.calendar
          (world.purge ids now).2.database.overrides world.calendar :=
        .purge now ids
      exact {
        recorded := accounted.recorded.step storable step
        deletions := accounted.deletions.step storable step
        numbered := accounted.numbered.of_sublist (world.database.overrides.ids_purge now ids)
        pace := slow }

/--
The rows of all worlds that requests lead to are accounted for.  While the calendar of one has
four digits in its year, so had all before it.
-/
theorem Served.isAccounted (served : Served start world)
    (noRows : start.database.overrides = {})
    (startStorable : start.calendar.IsStorable)
    (plainYear : world.calendar.HasPlainYear) :
    start.IsAccounted world := by
  induction served with
  | start =>
      exact {
        recorded := noRows ▸ OverrideTable.isRecorded_empty start.calendar
        deletions := noRows ▸ OverrideTable.hasReadDeletions_empty
        numbered := noRows ▸ OverrideTable.isNumbered_empty start.issuedIds
        pace := by omega }
  | @request world place request before inductionHypothesis =>
      have statement := statement_handle world place request
      have wasPlain := startStorable.plainYear.between plainYear before.ordered statement.ordered
      have wasShown := before.isShown startStorable.isShown
      exact (inductionHypothesis wasPlain).statement startStorable ⟨wasPlain, wasShown⟩ statement
  | meanwhile before passed inductionHypothesis =>
      have wasPlain := startStorable.plainYear.between plainYear before.ordered passed.calendar
      exact (inductionHypothesis wasPlain).meanwhile passed

/-! ## A sweep -/

/-- A sweep asks for what it lists and removes it, and ends where it can list nothing. -/
theorem perform_sweep (present : world.instances[place]? = some state)
    (working : state.backends.overrides = .working) (now : Instant) (limit : Nat) :
    world.perform place (state.service.sweep now limit) =
      match world.database.overrides.listDead now limit with
      | .ok listed =>
          (.ok (world.database.overrides.purge now (listed.map Override.id)).1,
            (world.purge (listed.map Override.id) now).2)
      | .error error => (.error error, world) := by
  have performs : world.perform place (state.service.sweep now limit) =
      Operation.perform (World.handle place) (Layer.sweep now limit) world := rfl
  rw [performs, Layer.sweep, Operation.perform_bind_ok _ _ (Operation.perform_ask _ _ _),
    handle_listDead present working now limit]
  cases world.database.overrides.listDead now limit with
  | error error => exact Operation.perform_bind_error _ _ (Operation.perform_known _ _ _)
  | ok listed =>
      rw [Operation.perform_bind_ok _ _ (Operation.perform_known _ _ _)]
      cases listed with
      | nil => rfl
      | cons first rest =>
          have purged := handle_purge present working ((first :: rest).map Override.id) now
          rw [List.isEmpty_cons, if_neg Bool.false_ne_true,
            Operation.perform_bind_ok _ _ (Operation.perform_ask _ _ _), purged]
          rfl

/--
Whatever requests were served before, and however they ended, a sweep over a store that works
takes as many rows as it may of those that are cleared or expired, the ones first that were
not changed for the longest time, exactly when no row that it lists has an expiry in a year
that has not four digits.  One such row makes it fail, and it takes nothing.
-/
theorem sweep_takes_oldest_iff
    (noRows : start.database.overrides = {})
    (startStorable : start.calendar.IsStorable)
    (served : Served start world)
    (storable : world.calendar.IsStorable)
    (present : world.instances[place]? = some state)
    (working : state.backends.overrides = .working)
    {now : Instant}
    (nowStorable : now.IsStorable)
    (limit : Nat) :
    let before := world.database.overrides
    let swept := world.perform place (state.service.sweep now limit)
    let after := swept.2.database.overrides
    let readable := ∀ row ∈ before.deadRows now limit, ∀ expiry : Instant,
      row.expiresAt = some expiry.toStored → expiry.HasPlainYear
    ((∃ taken, swept.1 = .ok taken.length ∧ before.Takes now limit taken after) ↔
        readable) ∧
      (¬readable → swept.1 = .error (.internal "Invalid expires_at") ∧ after = before) ∧
        (∀ row ∈ before.rows, row.isDead now.toStored = true ↔
          row.deletedAt ≠ none ∨ ∃ expiry : Instant, row.expiresAt = some expiry.toStored ∧
            (expiry.HasPlainYear → expiry.shown.truncateToMicros ≤ now)) := by
  intro before swept after readable
  have accounted := served.isAccounted noRows startStorable storable.plainYear
  have sameReadable : readable ↔ ∀ row ∈ before.deadRows now limit, row.HasStoredExpiry :=
    forall₂_congr fun row listed =>
      (accounted.recorded.rows row
        (OverrideTable.mem_of_mem_deadRows listed).1).hasStoredExpiry_iff.symm
  have sweeps := perform_sweep present working now limit
  have fails (unreadable : ¬readable) :
      swept = (.error (.internal "Invalid expires_at"), world) := by
    rw [OverrideTable.listDead_of_unreadable accounted.recorded accounted.deletions
      (mt sameReadable.mpr unreadable)] at sweeps
    exact sweeps
  refine ⟨⟨?_, ?_⟩, ?_, ?_⟩
  · rintro ⟨taken, succeeds, _⟩
    by_contra unreadable
    rw [fails unreadable] at succeeds
    cases succeeds
  · intro reads
    obtain ⟨listed, lists, ids⟩ := OverrideTable.listDead_of_readable accounted.recorded
      accounted.deletions accounted.numbered (sameReadable.mp reads)
    rw [lists] at sweeps
    refine ⟨before.deadRows now limit, ?_, ?_⟩
    · show swept.1 = _
      rw [← OverrideTable.count_purge_of_listed accounted.numbered.distinct ids]
      exact congrArg Prod.fst sweeps
    · show before.Takes now limit _ swept.2.database.overrides
      have left : swept.2.database.overrides =
          (before.purge now (listed.map Override.id)).2 :=
        congrArg (fun ended => ended.2.database.overrides) sweeps
      rw [left]
      exact OverrideTable.takes_of_listed accounted.recorded accounted.numbered ids
  · intro unreadable
    have ends := fails unreadable
    exact ⟨congrArg Prod.fst ends, congrArg (fun ended => ended.2.database.overrides) ends⟩
  · exact fun row member => (accounted.recorded.rows row member).isDead_iff nowStorable

namespace Stuck

/-- The scope of the override. -/
def target : Scope :=
  .user "prod" "beta.search" "u1"

/-- A database without rows, before an instance joins. -/
def fresh : World where
  calendar := .mayDay

/-- The service of the instance. -/
def service : Service :=
  InstanceSettings.service {}

/-- An instant whose year has five digits. -/
def expiry : Instant :=
  .startOf ⟨12000, 1, 1, by decide⟩

/-- A flag was set for a user until that instant, which failed, and cleared again. -/
def cleared : World :=
  let failed := ((fresh.addInstance {}).perform 0
    (service.setOverride target true (some expiry) false)).2
  (failed.perform 0 (service.clearOverride target false)).2

end Stuck

open Stuck in
/-- One row waits to be swept, and no sweep that lists it takes it. -/
theorem sweep_takes_oldest_iff_stuck :
    Served fresh cleared ∧ cleared.database.overrides.deadCount .mayDay = 1 ∧
      ∃ state, cleared.instances[0]? = some state ∧
        let swept := cleared.perform 0 (state.service.sweep .mayDay 10)
        swept.1 = .error (.internal "Invalid expires_at") ∧
          swept.2.database.overrides = cleared.database.overrides := by
  have joined : Served fresh (fresh.addInstance {}) :=
    Served.start.meanwhile ⟨rfl, rfl, Int.le_refl _, id⟩
  have served : Served fresh cleared := (joined.perform 0 _).perform 0 _
  have works : cleared.instances[0]?.map (fun state => state.backends.overrides) =
      some .working := by decide +kernel
  obtain ⟨state, present, working⟩ := Option.map_eq_some_iff.mp works
  have storable : Instant.mayDay.IsStorable := by decide
  obtain ⟨_, stops, _⟩ := sweep_takes_oldest_iff rfl storable served (by decide +kernel) present
    working storable 10
  have lists : cleared.database.overrides.deadRows .mayDay 10 =
      cleared.database.overrides.rows := by decide +kernel
  refine ⟨served, by decide +kernel, state, present, stops fun readable => ?_⟩
  rw [lists] at readable
  obtain ⟨row, member, expires⟩ :
      ∃ row ∈ cleared.database.overrides.rows, row.expiresAt = some expiry.toStored := by
    decide +kernel
  exact absurd (readable row member expiry expires) (by decide)

end Switchboard.World
