import Switchboard.Proofs.Layer.Freshness
import Switchboard.Proofs.Layer.Reads
import Switchboard.Proofs.Layer.Writes
import Switchboard.Proofs.Patching.Absence
import Switchboard.Proofs.Patching.Watching

namespace Switchboard.Patching

open Cluster (IsUp member)

/-!
# What one patch comes to

An instance whose backends work does a patch, whatever other instances have cached and whatever
is under way.  It reads the override that is in force through its cache, and stores what comes of
that, or where nothing comes of it leaves everything to later readers as it was.
-/

/-- Only the instance in a place did something, and it took no time. -/
structure Alone (place : Nat) (before after : World) : Prop where
  up : IsUp place after
  clock : after.clock = before.clock
  calendar : before.calendar ≤ after.calendar
  elsewhere : ∀ other : Nat, other ≠ place → after.instances[other]? = before.instances[other]?

variable {place reader : Nat} {world later : World} {scope : Scope} {service : Service}

theorem Alone.trans {first second third : World} (earlier : Alone place first second)
    (later : Alone place second third) :
    Alone place first third where
  up := later.up
  clock := later.clock.trans earlier.clock
  calendar := Int.le_trans earlier.calendar later.calendar
  elsewhere other different := (later.elsewhere other different).trans
    (earlier.elsewhere other different)

/-- A request of an instance whose backends work changes no other instance. -/
private theorem alone_handle (up : IsUp place world) (request : Request) :
    Alone place world (world.handle place request).2 := by
  have stillUp := Cluster.isUp_handle up request
  have effect := World.effect_handle world place request
  generalize (world.handle place request).2 = changed at effect stillUp
  have ordered := world.calendar.le_next
  cases effect with
  | hung _ milliseconds hangs =>
      obtain ⟨state, present, backends⟩ := up
      rw [present, Option.getD_some, backends] at hangs
      rcases hangs with hangs | hangs | hangs | hangs <;> cases hangs
  | lookedUp cacheKey state present =>
      exact ⟨stillUp, rfl, Int.le_refl _, fun _ => World.putInstance_other⟩
  | logged records state present =>
      exact ⟨stillUp, rfl, Int.le_refl _, fun _ => World.putInstance_other⟩
  | cached cacheKey text lifetime =>
      exact ⟨stillUp, rfl, Int.le_refl _, fun _ => World.modifyInstance_other⟩
  | dropped cacheKey =>
      exact ⟨stillUp, rfl, Int.le_refl _, fun _ => World.modifyInstance_other⟩
  | counted counter amount =>
      exact ⟨stillUp, rfl, Int.le_refl _, fun _ => World.modifyInstance_other⟩
  | observed keys =>
      exact ⟨stillUp, rfl, Int.le_refl _, fun _ => World.modifyInstance_other⟩
  | nothing => exact ⟨stillUp, rfl, Int.le_refl _, fun _ _ => rfl⟩
  | published topic event => exact ⟨stillUp, rfl, Int.le_refl _, fun _ _ => rfl⟩
  | wrote write expected => exact ⟨stillUp, rfl, ordered, fun _ _ => rfl⟩
  | upserted scope value expiresAt => exact ⟨stillUp, rfl, ordered, fun _ _ => rfl⟩
  | cleared scope => exact ⟨stillUp, rfl, ordered, fun _ _ => rfl⟩
  | purged ids now => exact ⟨stillUp, rfl, Int.le_refl _, fun _ _ => rfl⟩
  | ticked => exact ⟨stillUp, rfl, ordered, fun _ _ => rfl⟩

/-- No more does an operation. -/
theorem alone_perform (up : IsUp place world) (operation : Operation α) :
    Alone place world (world.perform place operation).2 :=
  Operation.perform_keeps (World.handle place)
    (fun request _ alone => alone.trans (alone_handle alone.up request)) operation
    ⟨up, rfl, Int.le_refl _, fun _ _ => rfl⟩

/-! ## Rows and copies that can be read back -/

/-- Whatever is watched otherwise, rows and copies can be read back. -/
theorem Watch.IsKept.watching {watch : Watch} (kept : watch.IsKept reader world) (other : Watch)
    (otherReader : Nat)
    (found : ∀ now, other.times now →
      world.database.overrides.find other.scope now = .ok (other.state.inForce now))
    (copies : ∀ text (copy : OverrideValue),
      world.held otherReader (overrideCacheKey other.scope) = some text →
        Wire.decode? text = some copy → other.Shows copy) :
    other.IsKept otherReader world where
  rows := ⟨kept.rows.regular, kept.rows.named, found⟩
  stored := kept.stored
  copies := copies

/-- An operation that keeps to the terms keeps everything, in years of four digits. -/
theorem Watch.IsKept.perform {watch : Watch} {operation : Operation α}
    {ends : Except ServiceError α → Prop}
    (kept : watch.IsKept reader world)
    (up : IsUp place world)
    (abides : operation.Abides watch.terms ends)
    (plainYear : world.calendar.HasPlainYear)
    (laterPlain : (world.perform place operation).2.calendar.HasPlainYear) :
    watch.IsKept reader (world.perform place operation).2 := by
  change operation.run.Abides watch.terms ends at abides
  unfold World.perform at laterPlain ⊢
  generalize operation.run = program at abides laterPlain ⊢
  induction program generalizing world with
  | done outcome => exact kept
  | step request next inductionHypothesis =>
      obtain ⟨given, between⟩ := kept.handle plainYear abides.1
      have alone := alone_handle up request
      simp only [Program.run] at laterPlain ⊢
      have goesOn := alone_perform alone.up
        (ExceptT.mk (next (World.handle place request world).1) : Operation α)
      exact inductionHypothesis _ between alone.up
        (plainYear.between laterPlain alone.calendar goesOn.calendar) (abides.2 _ given) laterPlain

/-- What a lookup finds is a text that the instance holds. -/
theorem held_of_cachedOverride {copy : OverrideValue}
    (cached : world.cachedOverride place scope = some copy) :
    ∃ text, world.held place (overrideCacheKey scope) = some text ∧
      Wire.decode? text = some copy := by
  obtain ⟨text, given, decoded⟩ := Option.bind_eq_some_iff.mp cached
  obtain ⟨state, present, got⟩ := Option.bind_eq_some_iff.mp given
  exact ⟨text, (World.held_of_present present _).trans (Cache.text_of_get got), decoded⟩

/-- What is read of a scope is known, and can be read back from a row. -/
theorem Watch.IsKept.overrideAt_ok {watch : Watch} (kept : watch.IsKept reader world) (place : Nat)
    (scope : Scope) (now : Instant) :
    ∃ current, world.overrideAt place scope now = .ok current ∧
      ∀ state ∈ current, state.IsStored := by
  unfold World.overrideAt
  cases cached : world.cachedOverride place scope with
  | some copy =>
      refine ⟨_, rfl, fun state isState => ?_⟩
      obtain ⟨_, same⟩ := Option.ite_none_right_eq_some.mp isState
      cases same
      obtain ⟨text, held, decoded⟩ := held_of_cachedOverride cached
      exact kept.stored place scope text _ held decoded
  | none =>
      obtain ⟨found, finds⟩ := kept.rows.regular.sound.exists_find scope now
      refine ⟨found, finds, fun state isState => ?_⟩
      rw [Option.mem_def.mp isState] at finds
      exact kept.rows.regular.sound.isStored_of_find finds

/-! ## The parts of a patch -/

/-- A read through the cache gives what is in force, and caches nothing but what it found. -/
private theorem perform_getOverride {watch : Watch} (kept : watch.IsKept reader world)
    (up : IsUp place world) (layer : Layer) (scope : Scope) :
    ∃ current later,
      world.perform place (layer.getOverride scope) = (.ok current, later) ∧
        world.overrideAt place scope world.calendar = .ok current ∧
          (∀ state ∈ current, state.IsStored) ∧ Alone place world later ∧
            later.database = world.database ∧
              ∀ cacheKey text, cacheKey ≠ overrideCacheKey scope →
                later.held place cacheKey = some text → world.held place cacheKey = some text := by
  obtain ⟨state, present, backends⟩ := id up
  obtain ⟨current, sees, stored⟩ := kept.overrideAt_ok place scope world.calendar
  have ticked : ({ world with calendar := world.calendar.next } : World).instances[place]? =
      some state :=
    present
  obtain ⟨_, reads, _⟩ :=
    World.perform_getOverrideAt ticked backends layer scope world.calendar
  have gives : (world.perform place (layer.getOverride scope)).1 = .ok current :=
    (congrArg Prod.fst ((World.perform_getOverride present layer scope).trans reads)).trans sees
  have alone := alone_perform up (layer.getOverride scope)
  obtain ⟨found, later, performs, _, leaves⟩ := (member place).getOverride_spec layer scope up
  have asks : world.perform place (layer.getOverride scope) = (found, later) := performs
  rw [asks] at gives alone
  obtain rfl : found = .ok current := gives
  refine ⟨current, later, asks, sees, stored, alone, ?_⟩
  rcases leaves with quiet | ⟨value, _, fills⟩
  · exact ⟨quiet.database, fun cacheKey text _ held => quiet.entries cacheKey text held⟩
  · refine ⟨fills.database, fun cacheKey text other held => ?_⟩
    rcases fills.entries cacheKey text held with old | ⟨isHere, _⟩
    · exact old
    · exact absurd isHere other

/--
An override was stored: the row of its scope tells so, the rows of others are as they were, and
it is returned as it is stored.
-/
structure Stores (target : Scope) (before after : Database) (stored : Override) : Prop where
  scope : stored.scope = target
  deletedAt : stored.deletedAt = none
  row : ∃ row, after.overrides.row? target = some row ∧ row.deletedAt = none ∧
    row.decode = .ok stored
  others : ∀ row : OverrideRow, row.isOf target = false →
    (row ∈ after.overrides.rows ↔ row ∈ before.overrides.rows)
  finds : ∀ other, other ≠ target → ∀ now,
    after.overrides.find other now = before.overrides.find other now
  flags : after.flags = before.flags

/-- Of the scope nothing is cached any more that can be read, and of others nothing new. -/
structure Drops (place : Nat) (scope : Scope) (before after : World) : Prop where
  dropped : (member place).Dropped after (overrideCacheKey scope)
  losing : ∀ cacheKey text, cacheKey ≠ overrideCacheKey scope →
    after.held place cacheKey = some text → before.held place cacheKey = some text

/-- After a statement its scope is dropped from the cache, and the news go out. -/
private theorem perform_announced (up : IsUp place world) (layer : Layer) (scope : Scope) :
    ∃ later, world.perform place (layer.announceOverride scope) = (.ok (), later) ∧
      later.database = world.database ∧ Drops place scope world later := by
  obtain ⟨state, present, backends⟩ := id up
  have succeeds := World.perform_announceOverride present backends layer scope
  obtain ⟨outcome, later, told, announces, keyed, invalidates⟩ :=
    (member place).perform_announce layer (.overrideChanged scope) (overrideCacheKey scope)
      (fun _ => rfl) up
  have performs : world.perform place (layer.announceOverride scope) = (outcome, later) :=
    announces
  obtain rfl : outcome = .ok () := (congrArg Prod.fst performs).symm.trans succeeds
  obtain ⟨erased, published, leaves, ⟨_, rfl⟩, quiet, drops⟩ := invalidates
  refine ⟨later, performs, quiet.database.trans leaves.database, fun text held => ?_,
    fun cacheKey text _ held => leaves.entries cacheKey text (quiet.entries cacheKey text held)⟩
  rw [← keyed]
  exact drops nofun text (keyed ▸ quiet.entries _ text held)

/-- A write of an expiry in a year of four digits succeeds, and leaves what it says. -/
private theorem perform_upsertOverride {value : Bool} {expiresAt : Option Instant}
    (up : IsUp place world)
    (regular : world.database.overrides.IsRegular)
    (plainYear : world.calendar.HasPlainYear)
    (expiryPlain : ∀ expiry ∈ expiresAt, expiry.HasPlainYear)
    (layer : Layer) (scope : Scope) :
    ∃ stored later,
      world.perform place (layer.upsertOverride scope value expiresAt) = (.ok stored, later) ∧
        stored.state = OverrideValue.toMicros ⟨value, expiresAt⟩ ∧
          Stores scope world.database later.database stored ∧ Drops place scope world later := by
  obtain ⟨state, present, backends⟩ := id up
  obtain ⟨stored, decoded, sameScope, sameState, kept⟩ :=
    regular.decode_upsert expiryPlain plainYear world.nextId scope value
  obtain ⟨stated, states, instances, database⟩ : ∃ stated,
      world.upsertOverride scope value expiresAt = (.ok stored, stated) ∧
        stated.instances = world.instances ∧
          stated.database = { world.database with
            overrides := (world.database.overrides.upsert world.nextId scope value expiresAt
              world.calendar).2 } :=
    ⟨_, Prod.ext decoded rfl, rfl, rfl⟩
  have writes := World.perform_statement present backends scope value expiresAt
  rw [states] at writes
  have statedUp : IsUp place stated := ⟨state, instances ▸ present, backends⟩
  obtain ⟨later, announces, sameDatabase, drops⟩ := perform_announced statedUp layer scope
  have performs : world.perform place (layer.upsertOverride scope value expiresAt) =
      (.ok stored, later) := by
    have goesOn : world.perform place (layer.upsertOverride scope value expiresAt) = _ :=
      Operation.perform_bind_ok _ _ writes
    rw [goesOn, Operation.perform_bind_ok _ _ announces]
    rfl
  refine ⟨stored, later, performs, sameState, ?_, drops.dropped, fun cacheKey text other held => ?_⟩
  · have sound := regular.sound.upsert world.nextId scope value world.calendar expiryPlain
    obtain ⟨isOf, _, _, notDeleted, _⟩ := world.database.overrides.upsert_columns world.nextId scope
      value expiresAt world.calendar
    have member := world.database.overrides.row_mem_upsert world.nextId scope value expiresAt
      world.calendar
    rw [sameDatabase, database]
    refine ⟨sameScope, kept, ⟨_, ?_, notDeleted, decoded⟩, fun row isOther => ?_,
      fun other different now => ?_, rfl⟩
    · exact (OverrideTable.OnePerScope.row_eq_some_iff sound.onePerScope).mpr ⟨member, isOf⟩
    · exact OverrideTable.mem_upsert_iff_of_other isOther
    · exact OverrideTable.find_upsert_other world.nextId value expiresAt world.calendar now
        different
  · have old := drops.losing cacheKey text other held
    unfold World.held at old ⊢
    rwa [instances] at old

/-! ## The whole of it -/

/--
All that a patch may come to where it is authorized: the override that is in force changes in the
parts that the patch sets, and where there would be no value nothing changes.
-/
inductive Patches (place : Nat) (scope : Scope) (patch : OverridePatch) (before : World)
    (current : Option OverrideValue) :
    Except ServiceError (Option Override) → World → Prop where
  | unchanged {later : World} :
      patch.apply current = none → Overlooks place scope before later →
        Patches place scope patch before current (.ok none) later
  | stored {next : OverrideValue} {stored : Override} {later : World} :
      patch.apply current = some next → stored.state = next.toMicros →
        Stores scope before.database later.database stored → Drops place scope before later →
          Patches place scope patch before current (.ok (some stored)) later

/-- A patch reads what is in force through the cache, and comes to one of these. -/
theorem perform_patchOverride {watch : Watch} (kept : watch.IsKept reader world)
    (up : IsUp place world)
    (plainYear : world.calendar.HasPlainYear)
    {administrator : Bool} {patch : OverridePatch}
    (laterPlain : (world.perform place
      (service.patchOverride scope patch administrator)).2.calendar.HasPlainYear)
    (patchPlain : patch.HasPlainYear)
    (valid : scope.check = .ok ())
    (permitted : ¬service.Refuses scope administrator) :
    ∃ current, world.overrideAt place scope world.calendar = .ok current ∧
      (∀ state ∈ current, state.IsStored) ∧
        Patches place scope patch world current
          (world.perform place (service.patchOverride scope patch administrator)).1
          (world.perform place (service.patchOverride scope patch administrator)).2 := by
  obtain ⟨current, read, reads, sees, stored, alone, database, losing⟩ :=
    perform_getOverride kept up service.layer scope
  refine ⟨current, sees, stored, ?_⟩
  have authorized : Operation.perform (World.handle place)
      (service.authorize scope administrator) world = (.ok (), world) :=
    World.perform_authorize permitted valid
  have goesOn : world.perform place (service.patchOverride scope patch administrator) = _ :=
    (Operation.perform_bind_ok _ _ authorized).trans (Operation.perform_bind_ok _ _ reads)
  cases applied : patch.apply current with
  | none =>
      obtain ⟨_, rfl⟩ := OverridePatch.apply_eq_none_iff.mp applied
      obtain ⟨state, present, backends⟩ := id up
      have overlooks := overlooks_getOverride present backends sees service.layer
      rw [reads] at overlooks
      rw [applied] at goesOn
      rw [goesOn]
      exact .unchanged applied overlooks
  | some next =>
      rw [applied] at goesOn
      have readPlain : read.calendar.HasPlainYear := by
        rw [goesOn] at laterPlain
        exact plainYear.between laterPlain alone.calendar (alone_perform alone.up _).calendar
      have expiryPlain := patchPlain.apply stored applied
      obtain ⟨written, later, performs, state, stores, drops⟩ :=
        perform_upsertOverride alone.up (database ▸ kept.rows.regular) readPlain expiryPlain
          service.layer scope
      have ends : world.perform place (service.patchOverride scope patch administrator) =
          (.ok (some written), later) :=
        goesOn.trans (Operation.perform_bind_ok _ _ performs)
      rw [ends]
      rw [database] at stores
      refine .stored applied state stores ⟨drops.dropped, fun cacheKey text other held => ?_⟩
      exact losing cacheKey text other (drops.losing cacheKey text other held)

end Switchboard.Patching
