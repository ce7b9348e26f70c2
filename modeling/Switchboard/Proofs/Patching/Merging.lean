import Switchboard.Proofs.Patching.Outcomes

namespace Switchboard.Patching

open Cluster (IsUp member)
open Guarding (Floor Job Task Turn takeTurns)

/-!
# Patches of stored overrides

A patch reads the override that is in force, through the cache of the instance that does it, and
writes what comes of it.  Whatever calls led to the world and whatever calls follow but for another
change of the same scope, what is read then is what the patch and the override had to say, and of
two patches in a row what one patch would have said.
-/

/-- A task that leaves the override of a scope alone, and sweeps nothing ahead of an instant. -/
structure Spares (scope : Scope) (now : Instant) (task : Task) : Prop where
  plainYears : task.HasPlainYears
  untouched : task.target? ≠ some scope
  notAhead : ∀ sweptAt limit, task = .sweep sweptAt limit → sweptAt.IsStorable ∧ sweptAt ≤ now

/-- Asked at an instant, an instance gives the same answer about a scope in two worlds. -/
def ShowsSame (reader : Nat) (scope : Scope) (now : Instant) (first second : World) : Prop :=
  ∀ milliseconds, (second.passed milliseconds now).overrideSeen reader scope =
    (first.passed milliseconds now).overrideSeen reader scope

variable {place reader : Nat} {world later : World} {scope other : Scope} {now : Instant}

/-! ## What is seen -/

/-- An instance whose backends work shows what it has cached, or what the store finds. -/
private theorem overrideSeen_of_isUp (up : IsUp reader world) (valid : scope.check = .ok ()) :
    world.overrideSeen reader scope = some (world.overrideAt reader scope world.calendar) := by
  obtain ⟨state, present, backends⟩ := up
  exact World.overrideSeen_of_backends present backends valid

/-- The same is shown where the same is given to lookups, and the store finds the same. -/
private theorem showsSame_of_given (up : IsUp reader world) (laterUp : IsUp reader later)
    (valid : other.check = .ok ())
    (given : ∀ milliseconds,
      (later.passed milliseconds now).given reader (overrideCacheKey other) =
        (world.passed milliseconds now).given reader (overrideCacheKey other))
    (finds : later.database.overrides.find other now = world.database.overrides.find other now) :
    ShowsSame reader other now world later := by
  intro milliseconds
  have before : IsUp reader (world.passed milliseconds now) := up
  have after : IsUp reader (later.passed milliseconds now) := laterUp
  rw [overrideSeen_of_isUp before valid, overrideSeen_of_isUp after valid]
  unfold World.overrideAt World.cachedOverride
  rw [given]
  cases ((world.passed milliseconds now).given reader (overrideCacheKey other)).bind
      (Wire.decode? (α := OverrideValue)) with
  | some copy => rfl
  | none => exact congrArg some finds

/-- What is read of a scope that is fresh is what the store finds. -/
private theorem overrideAt_of_isFresh (fresh : (member reader).OverrideIsFresh world scope now) :
    world.overrideAt reader scope now = world.database.overrides.find scope now := by
  unfold World.overrideAt
  cases cached : world.cachedOverride reader scope with
  | none => rfl
  | some value =>
      obtain ⟨text, held, decoded⟩ := held_of_cachedOverride cached
      exact (fresh text value held decoded).symm

/-- The same is shown of a scope that is fresh, where texts only go and the store finds the same. -/
private theorem showsSame_of_isFresh (up : IsUp reader world) (laterUp : IsUp reader later)
    (valid : other.check = .ok ())
    (fresh : (member reader).OverrideIsFresh world other now)
    (losing : ∀ text, later.held reader (overrideCacheKey other) = some text →
      world.held reader (overrideCacheKey other) = some text)
    (finds : later.database.overrides.find other now = world.database.overrides.find other now) :
    ShowsSame reader other now world later := by
  intro milliseconds
  have before : IsUp reader (world.passed milliseconds now) := up
  have after : IsUp reader (later.passed milliseconds now) := laterUp
  have stillFresh : (member reader).OverrideIsFresh later other now :=
    fun text value held decoded => finds.trans (fresh text value (losing text held) decoded)
  have reads : (world.passed milliseconds now).overrideAt reader other now =
      world.database.overrides.find other now :=
    overrideAt_of_isFresh fresh
  have laterReads : (later.passed milliseconds now).overrideAt reader other now =
      later.database.overrides.find other now :=
    overrideAt_of_isFresh stillFresh
  rw [overrideSeen_of_isUp before valid, overrideSeen_of_isUp after valid]
  exact congrArg some (laterReads.trans (finds.trans reads.symm))

/-- What one instance does alone, others are not aware of. -/
private theorem showsSame_elsewhere (alone : Alone place world later) (up : IsUp reader world)
    (different : reader ≠ place) (valid : other.check = .ok ())
    (finds : later.database.overrides.find other now = world.database.overrides.find other now) :
    ShowsSame reader other now world later := by
  have same := alone.elsewhere reader different
  have laterUp : IsUp reader later := by
    unfold IsUp
    rw [same]
    exact up
  refine showsSame_of_given up laterUp valid (fun milliseconds => ?_) finds
  show later.instances[reader]?.bind _ = world.instances[reader]?.bind _
  rw [same]
  exact congrArg (fun clock => world.instances[reader]?.bind fun state =>
    (state.cache.get (overrideCacheKey other) (clock + milliseconds)).1) alone.clock

/-- The reader of a watch is shown its state. -/
private theorem Watch.IsKept.overrideSeen {watch : Watch} (kept : watch.IsKept reader world)
    (up : IsUp reader world)
    (valid : watch.scope.check = .ok ())
    (isTime : watch.times world.calendar) :
    world.overrideSeen reader watch.scope =
      some (.ok (watch.state.inForce world.calendar)) := by
  rw [overrideSeen_of_isUp up valid]
  unfold World.overrideAt
  cases cached : world.cachedOverride reader watch.scope with
  | none => exact congrArg some (kept.rows.found _ isTime)
  | some copy =>
      obtain ⟨text, held, decoded⟩ := held_of_cachedOverride cached
      exact congrArg (some ∘ Except.ok) (kept.copies text copy held decoded _ isTime)

/-! ## Where a patch comes to nothing -/

/--
The rows and the events stay, and whoever is asked for an override gives the same answer later,
unless it is the override of this scope and the copy that this instance had differs from the store.
-/
structure LeavesAll (place : Nat) (scope : Scope) (before after : World) : Prop where
  database : after.database = before.database
  bus : after.bus = before.bus
  shows : ∀ reader other now, IsUp reader before → other.check = .ok () →
    (reader = place → other = scope → (member place).OverrideIsFresh before scope now) →
      ShowsSame reader other now before after

/-- After a read that found nothing the same is seen of every scope. -/
private theorem leavesAll_of_overlooks (alone : Alone place world later)
    (overlooks : Overlooks place scope world later)
    (valid : scope.check = .ok ()) :
    LeavesAll place scope world later := by
  refine ⟨overlooks.database, overlooks.bus, fun reader other now up otherValid fresh => ?_⟩
  have finds : later.database.overrides.find other now =
      world.database.overrides.find other now := by
    rw [overlooks.database]
  by_cases elsewhere : reader = place
  · subst elsewhere
    by_cases here : other = scope
    · subst here
      exact showsSame_of_isFresh up alone.up otherValid (fresh rfl rfl)
        (overlooks.losing (overrideCacheKey other)) finds
    · have different : overrideCacheKey other ≠ overrideCacheKey scope := fun same =>
        here ((overrideCacheKey_inj (Scope.hasValidNames_of_check otherValid)
          (Scope.hasValidNames_of_check valid)).mp same)
      exact showsSame_of_given up alone.up otherValid
        (fun milliseconds => overlooks.gives _ different milliseconds now) finds
  · exact showsSame_elsewhere alone up elsewhere otherValid finds

/-! ## Where a patch is stored -/

section Stored

variable {stored : Override} (stores : Stores scope world.database later.database stored)
  (drops : Drops place scope world later)
include stores drops

/-- Of other scopes the same is seen. -/
private theorem showsSame_of_stored (alone : Alone place world later)
    (valid : scope.check = .ok ())
    (up : IsUp reader world)
    (otherValid : other.check = .ok ())
    (different : other ≠ scope)
    (fresh : reader = place → (member place).OverrideIsFresh world other now) :
    ShowsSame reader other now world later := by
  have finds := stores.finds other different now
  by_cases elsewhere : reader = place
  · subst elsewhere
    refine showsSame_of_isFresh up alone.up otherValid (fresh rfl) (fun text held => ?_) finds
    refine drops.losing _ text (fun same => different ?_) held
    exact (overrideCacheKey_inj (Scope.hasValidNames_of_check otherValid)
      (Scope.hasValidNames_of_check valid)).mp same
  · exact showsSame_elsewhere alone up elsewhere otherValid finds

/-- What was stored is found, and nothing else is cached. -/
private theorem isKept_of_stored {watch : Watch} (kept : watch.IsKept reader later)
    (named : scope.HasValidNames)
    (storable : now.IsStorable) :
    (Watch.once named storable stored.state).IsKept place later := by
  obtain ⟨row, isRow, notDeleted, decoded⟩ := stores.row
  refine kept.watching _ place ?_ fun text copy held decoded => ?_
  · intro time isTime
    cases isTime
    exact kept.rows.regular.sound.find_of_row isRow decoded notDeleted storable
  · exact absurd (((drops.dropped text held).2 scope rfl).symm.trans decoded) nofun

end Stored

/-- A task that spares a scope is let go on where it is watched. -/
private theorem Spares.lets {task : Task} (spares : Spares scope now task)
    (named : scope.HasValidNames) (storable : now.IsStorable) (state : OverrideValue) :
    (Watch.once named storable state).Lets task where
  plainYears := spares.plainYears
  writes target isTarget same := by
    cases same
    exact absurd isTarget spares.untouched
  sweeps sweptAt limit isSweep time isTime := by
    cases isTime
    exact spares.notAhead sweptAt limit isSweep

/--
What is stored of a patch, and seen until somebody writes the scope again: the parts that the patch
sets, of an expiry what a clock shows in whole microseconds, and for the rest the override that was
in force.  It is seen through the instance that did the patch, and through all others whose copies
have come to agree with the store.  Of other scopes the same is seen as before, unless a copy that
this instance had differs from the store.
-/
structure Merges (place : Nat) (scope : Scope) (patch : OverridePatch)
    (current : Option OverrideValue) (before after : World) (stored : Override) : Prop where
  value : patch.value.or (current.map OverrideValue.value) = some stored.value
  setExpiry : ∀ expiresAt, patch.expiry = .set expiresAt →
    stored.expiresAt = expiresAt.map fun expiry => expiry.shown.truncateToMicros
  keptExpiry : patch.expiry = .keep → stored.expiresAt = current.bind OverrideValue.expiresAt
  stores : Stores scope before.database after.database stored
  shows : ∀ reader other now, IsUp reader before → other.check = .ok () → other ≠ scope →
    (reader = place → (member place).OverrideIsFresh before other now) →
      ShowsSame reader other now before after
  reads : ∀ (jobs : Nat → Job) (between final : Floor jobs) (reader : Nat),
    (∀ number, Spares scope final.world.calendar (jobs number).task) →
      Run (.opening jobs after) between → Run between final →
        final.world.calendar.IsStorable → IsUp reader final.world →
          (reader = place ∨
            (member reader).OverrideIsFresh between.world scope final.world.calendar) →
            final.world.overrideSeen reader scope =
              some (.ok (stored.state.inForce final.world.calendar))

section Followed

variable {stored : Override} {watch : Watch} {watched : Nat} {jobs : Nat → Job}
  {between final : Floor jobs}

/-- What was stored stays shown while calls that begin later spare the scope. -/
private theorem isOver_of_stored
    (stores : Stores scope world.database later.database stored)
    (drops : Drops place scope world later)
    (kept : watch.IsKept watched later)
    (named : scope.HasValidNames)
    (storable : now.IsStorable)
    (spares : ∀ number, Spares scope now (jobs number).task)
    (run : Run (.opening jobs later) between) :
    (Watch.once named storable stored.state).IsOver place between :=
  (Watch.IsOver.opening (isKept_of_stored stores drops kept named storable) fun number =>
    (spares number).lets named storable stored.state).of_run run

/--
What was stored is seen until it is written again, also by another instance, which may be watched
from then on and has to ask for nothing else.
-/
private theorem reads_stored
    (stores : Stores scope world.database later.database stored)
    (drops : Drops place scope world later)
    (kept : watch.IsKept watched later)
    (valid : scope.check = .ok ())
    (spares : ∀ number, Spares scope final.world.calendar (jobs number).task)
    (run : Run (.opening jobs later) between)
    (goesOn : Run between final)
    (storable : final.world.calendar.IsStorable)
    (up : IsUp reader final.world)
    (agrees : reader = place ∨
      (member reader).OverrideIsFresh between.world scope final.world.calendar) :
    final.world.overrideSeen reader scope =
      some (.ok (stored.state.inForce final.world.calendar)) := by
  have isOver := isOver_of_stored stores drops kept (Scope.hasValidNames_of_check valid) storable
    spares run
  have copies (text : String) (copy : OverrideValue)
      (held : between.world.held reader (overrideCacheKey scope) = some text)
      (decoded : Wire.decode? text = some copy) :
      ∀ now, now = final.world.calendar → copy.inForce now = stored.state.inForce now := by
    rcases agrees with rfl | fresh
    · exact isOver.kept.copies text copy held decoded
    · rintro now rfl
      have found := isOver.kept.rows.found _ rfl
      exact Except.ok.inj ((fresh text copy held decoded).symm.trans found)
  have passes := Watch.IsOver.mk (isOver.kept.watching _ reader isOver.kept.rows.found copies)
    isOver.programs
  exact (passes.of_run goesOn).kept.overrideSeen up valid rfl

end Followed

/-- What was stored is seen at once. -/
private theorem seen_of_stored {stored : Override} {watch : Watch}
    (stores : Stores scope world.database later.database stored)
    (drops : Drops place scope world later)
    (kept : watch.IsKept reader later)
    (up : IsUp place later)
    (valid : scope.check = .ok ())
    (storable : now.IsStorable)
    (milliseconds : Nat) :
    (later.passed milliseconds now).overrideSeen place scope =
      some (.ok (stored.state.inForce now)) := by
  have named := Scope.hasValidNames_of_check valid
  have passed : (Watch.once named storable stored.state).IsKept place
      (later.passed milliseconds now) :=
    (isKept_of_stored stores drops kept named storable).of_losing rfl fun _ _ _ held => held
  exact passed.overrideSeen up valid rfl

/-- What is stored of a patch is what it sets and, for the rest, what was in force. -/
private theorem merges_of_stored {patch : OverridePatch} {current : Option OverrideValue}
    {next : OverrideValue} {stored : Override} {watch : Watch}
    (valid : scope.check = .ok ())
    (isStored : ∀ state ∈ current, state.IsStored)
    (applied : patch.apply current = some next)
    (state : stored.state = next.toMicros)
    (stores : Stores scope world.database later.database stored)
    (drops : Drops place scope world later)
    (alone : Alone place world later)
    (kept : watch.IsKept reader later) :
    Merges place scope patch current world later stored := by
  obtain ⟨value, expiry⟩ := OverridePatch.apply_eq_some_iff.mp applied
  have sameValue : stored.value = next.value := congrArg OverrideValue.value state
  have sameExpiry : stored.expiresAt =
      next.expiresAt.map fun expiry => expiry.shown.truncateToMicros :=
    congrArg OverrideValue.expiresAt state
  refine {
    value := value.trans (congrArg some sameValue.symm)
    setExpiry := fun expiresAt sets => ?_
    keptExpiry := fun keeps => ?_
    stores := stores
    shows := fun reader other now up otherValid different fresh =>
      showsSame_of_stored stores drops alone valid up otherValid different fresh
    reads := fun jobs between final reader spares run goesOn storable up agrees =>
      reads_stored stores drops kept valid spares run goesOn storable up agrees }
  · unfold OverridePatch.expiryAfter at expiry
    rw [sets] at expiry
    rw [sameExpiry, ← expiry]
  · unfold OverridePatch.expiryAfter at expiry
    rw [keeps] at expiry
    rw [sameExpiry, ← expiry]
    cases current with
    | none => rfl
    | some shown => exact congrArg OverrideValue.expiresAt (isStored shown rfl).toMicros_eq

/-! ## Patches in a row -/

/-- Two changes of a scope end alike: with the same override stored, and seen ever after. -/
def EndAlike (place : Nat) (scope : Scope)
    (first second : Except ServiceError (Option Override) × World) : Prop :=
  ∃ once twice, first.1 = .ok (some once) ∧ second.1 = .ok (some twice) ∧
    once.state = twice.state ∧
      ∀ now, now.IsStorable → ShowsSame place scope now first.2 second.2

/-- What a patch gives, and the world after it. -/
def patched (place : Nat) (service : Service) (scope : Scope) (administrator : Bool)
    (patch : OverridePatch) (world : World) : Except ServiceError (Option Override) × World :=
  world.perform place (service.patchOverride scope patch administrator)

/--
A second patch, of an override that the first left and others have left in force since, ends as
one patch that joins both would have.
-/
def Composes (place : Nat) (service : Service) (scope : Scope) (administrator : Bool)
    (first : OverridePatch) (before after : World) : Prop :=
  ∀ (second : OverridePatch) (jobs : Nat → Job) (between : Floor jobs),
    second.HasPlainYear →
      (∀ number, Spares scope between.world.calendar (jobs number).task) →
        Run (.opening jobs after) between → IsUp place between.world →
          between.world.calendar.IsStorable →
            (∃ shown, between.world.overrideSeen place scope = some (.ok (some shown))) →
              let joined :=
                patched place service scope administrator (first.andThen second) before
              let again := patched place service scope administrator second between.world
              joined.2.calendar.HasPlainYear → again.2.calendar.HasPlainYear →
                EndAlike place scope joined again

section Calls

variable {service : Service} {administrator : Bool} {watch : Watch} {patch : OverridePatch}
  {current : Option OverrideValue}

/-- A patch comes to what follows from the override in force, and keeps what can be read back. -/
private theorem patches_of_sees (kept : watch.IsKept reader world) (up : IsUp place world)
    (plainYear : world.calendar.HasPlainYear)
    (valid : scope.check = .ok ())
    (permitted : ¬service.Refuses scope administrator)
    (sees : world.overrideAt place scope world.calendar = .ok current)
    (patchPlain : patch.HasPlainYear)
    (laterPlain :
      (patched place service scope administrator patch world).2.calendar.HasPlainYear) :
    let ended := patched place service scope administrator patch world
    (∀ state ∈ current, state.IsStored) ∧
      Patches place scope patch world current ended.1 ended.2 ∧ Alone place world ended.2 ∧
        (Watch.idle (Scope.hasValidNames_of_check valid)).IsKept place ended.2 := by
  obtain ⟨_, same, stored, patches⟩ :=
    perform_patchOverride kept up plainYear laterPlain patchPlain valid permitted
  cases same.symm.trans sees
  have named := Scope.hasValidNames_of_check valid
  have idle : (Watch.idle named).IsKept place world :=
    kept.watching _ place (fun _ isTime => isTime.elim) fun _ _ _ _ _ isTime => isTime.elim
  have lets : (Watch.idle named).Lets (.patchOverride scope patch administrator) :=
    ⟨patchPlain, fun _ _ _ _ isTime => isTime, fun _ _ isSweep => by cases isSweep⟩
  have abides :=
    Watch.Lets.abides ⟨place, service, .patchOverride scope patch administrator⟩ lets
  exact ⟨stored, patches, alone_perform up _, idle.perform up abides plainYear laterPlain⟩

/-- A second patch of what the first left ends as the one that joins them. -/
private theorem endAlike_of_patches {first second : OverridePatch} {next : OverrideValue}
    {stored : Override} {between : World} {betweenWatch joinedWatch : Watch}
    {once twice : Except ServiceError (Option Override) × World}
    (valid : scope.check = .ok ())
    (applied : first.apply current = some next)
    (state : stored.state = next.toMicros)
    (joined : Patches place scope (first.andThen second) world current once.1 once.2)
    (onceUp : IsUp place once.2)
    (onceKept : joinedWatch.IsKept place once.2)
    (again : Patches place scope second between (some stored.state) twice.1 twice.2)
    (twiceUp : IsUp place twice.2)
    (twiceKept : betweenWatch.IsKept place twice.2) :
    EndAlike place scope once twice := by
  obtain ⟨onceOutcome, onceWorld⟩ := once
  obtain ⟨twiceOutcome, twiceWorld⟩ := twice
  have alike := OverridePatch.apply_andThen second applied
  rw [← state] at alike
  cases again with
  | unchanged absent _ => exact absurd (OverridePatch.apply_eq_none_iff.mp absent).2 nofun
  | @stored secondNext twiceStored _ secondApplied twiceState twiceStores twiceDrops =>
      rw [secondApplied] at alike
      obtain ⟨joinedNext, joinedApplied, sameState⟩ := Option.map_eq_some_iff.mp alike.symm
      cases joined with
      | unchanged absent _ => exact absurd (absent.symm.trans joinedApplied) nofun
      | @stored _ onceStored _ applies onceState onceStores onceDrops =>
          cases applies.symm.trans joinedApplied
          have same : onceStored.state = twiceStored.state :=
            onceState.trans (sameState.trans twiceState.symm)
          refine ⟨onceStored, twiceStored, rfl, rfl, same, fun now storable milliseconds => ?_⟩
          rw [seen_of_stored twiceStores twiceDrops twiceKept twiceUp valid storable,
            seen_of_stored onceStores onceDrops onceKept onceUp valid storable, same]

/--
What a patch stored can be patched again: what is still in force is all that the first patch left.
-/
private theorem composes_of_stored {next : OverrideValue} {stored : Override}
    {laterWatch : Watch}
    (kept : watch.IsKept reader world)
    (up : IsUp place world)
    (plainYear : world.calendar.HasPlainYear)
    (valid : scope.check = .ok ())
    (permitted : ¬service.Refuses scope administrator)
    (sees : world.overrideAt place scope world.calendar = .ok current)
    (patchPlain : patch.HasPlainYear)
    (applied : patch.apply current = some next)
    (state : stored.state = next.toMicros)
    (stores : Stores scope world.database later.database stored)
    (drops : Drops place scope world later)
    (laterKept : laterWatch.IsKept place later) :
    Composes place service scope administrator patch world later := by
  intro second jobs between secondPlain spares run betweenUp storable shows joined again
    joinedPlain againPlain
  have isOver :=
    isOver_of_stored stores drops laterKept (Scope.hasValidNames_of_check valid) storable
    spares run
  have seesAgain : between.world.overrideAt place scope between.world.calendar =
      .ok (some stored.state) := by
    obtain ⟨shown, seen⟩ := shows
    have inForce : some (Except.ok (stored.state.inForce between.world.calendar)) =
        some (.ok (some shown)) :=
      (isOver.kept.overrideSeen betweenUp valid rfl).symm.trans seen
    obtain ⟨_, isShown⟩ :=
      Option.ite_none_right_eq_some.mp (Except.ok.inj (Option.some.inj inForce))
    rw [overrideSeen_of_isUp betweenUp valid] at seen
    rw [Option.some.inj seen, isShown]
  obtain ⟨_, once, onceAlone, onceKept⟩ := patches_of_sees kept up plainYear valid permitted sees
    (patchPlain.andThen secondPlain) joinedPlain
  obtain ⟨_, twice, twiceAlone, twiceKept⟩ := patches_of_sees isOver.kept betweenUp
    storable.plainYear valid permitted seesAgain secondPlain againPlain
  exact endAlike_of_patches valid applied state once onceAlone.up onceKept twice twiceAlone.up
    twiceKept

end Calls

/--
A patch of a valid scope, by an instance whose backends work, in whatever world the calls of any
instances led to.  With nothing in force and no value of its own it leaves everything; else what is
stored, and seen until the scope is written again, has the parts that the patch sets and those of
what was in force for the rest, and the rows of other scopes stay.  A second patch of what is still
in force ends as one that joins both.
-/
theorem patches_merge_and_compose
    {jobs : Nat → Job}
    (plainYears : ∀ number, (jobs number).task.HasPlainYears)
    {start : World}
    (noRows : start.database.overrides = {})
    (nothingCached : ∀ reader cacheKey, start.held reader cacheKey = none)
    {floor : Floor jobs}
    (run : Run (.opening jobs start) floor)
    (plainYear : floor.world.calendar.HasPlainYear)
    {place : Nat}
    (up : IsUp place floor.world)
    {service : Service}
    {scope : Scope}
    {administrator : Bool}
    (valid : scope.check = .ok ())
    (permitted : ¬service.Refuses scope administrator) :
    ∃ current, floor.world.overrideSeen place scope = some (.ok current) ∧
      ∀ patch : OverridePatch, patch.HasPlainYear →
        let ended := patched place service scope administrator patch floor.world
        ended.2.calendar.HasPlainYear →
          (patch.value = none ∧ current = none →
            ended.1 = .ok none ∧ LeavesAll place scope floor.world ended.2) ∧
          (¬(patch.value = none ∧ current = none) →
            ∃ stored, ended.1 = .ok (some stored) ∧
              Merges place scope patch current floor.world ended.2 stored ∧
                Composes place service scope administrator patch floor.world ended.2) := by
  have named := Scope.hasValidNames_of_check valid
  have began : (Watch.idle named).IsKept place start := by
    refine { rows := ⟨?_, ?_, fun _ isTime => isTime.elim⟩, stored := ?_, copies := ?_ }
    · rw [noRows]
      exact OverrideTable.isRegular_empty
    · rw [noRows]
      exact OverrideTable.hasOnly_empty
    · intro reader _ text _ held
      rw [nothingCached] at held
      cases held
    · intro text _ held
      rw [nothingCached] at held
      cases held
  have lets (number : Nat) : (Watch.idle named).Lets (jobs number).task :=
    ⟨plainYears number, fun _ _ _ _ isTime => isTime, fun _ _ _ _ isTime => isTime.elim⟩
  have kept := ((Watch.IsOver.opening began lets).of_run run).kept
  obtain ⟨current, sees, _⟩ := kept.overrideAt_ok place scope floor.world.calendar
  refine ⟨current, (overrideSeen_of_isUp up valid).trans (congrArg some sees),
    fun patch patchPlain => ?_⟩
  intro ended laterPlain
  obtain ⟨isStored, patches, alone, laterKept⟩ :=
    patches_of_sees kept up plainYear valid permitted sees patchPlain laterPlain
  change Patches place scope patch floor.world current ended.1 ended.2 at patches
  generalize ended.1 = outcome at patches ⊢
  cases patches with
  | unchanged absent overlooks =>
      have nothing := OverridePatch.apply_eq_none_iff.mp absent
      refine ⟨fun _ => ⟨rfl, ?_⟩, fun something => absurd nothing something⟩
      exact leavesAll_of_overlooks alone overlooks valid
  | stored applied state stores drops =>
      have something : ¬(patch.value = none ∧ current = none) := by
        intro nothing
        rw [OverridePatch.apply_eq_none_iff.mpr nothing] at applied
        cases applied
      refine ⟨fun nothing => absurd nothing something, fun _ => ⟨_, rfl, ?_, ?_⟩⟩
      · exact merges_of_stored valid isStored applied state stores drops alone laterKept
      · exact composes_of_stored kept up plainYear valid permitted sees patchPlain applied state
          stores drops laterKept

namespace Twice

/-- The scope of the override. -/
def target : Scope :=
  .user "prod" "beta.search" "u1"

/-- The service of both instances. -/
def service : Service :=
  InstanceSettings.service {}

/-- Two instances over a database without rows. -/
def start : World :=
  (World.addInstance { calendar := .mayDay } {}).addInstance {}

/-- One instance turns the flag on for a user, and the other reads it. -/
def jobs : Nat → Job
  | 0 => ⟨0, service, .setOverride target true none false⟩
  | _ => ⟨1, service, .getOverride target⟩

/-- The second instance loses the event, and then its bus and its stores fail. -/
def turns : List Turn :=
  List.replicate 6 (.resume 0) ++ List.replicate 3 (.resume 1) ++
    [.meanwhile (.lose start.bus), .meanwhile (.turn 1 ⟨.working, .failing, .hanging, .hanging⟩)]

/-- The flag is on, and one read of it is still under way. -/
def on : Floor jobs :=
  (takeTurns turns (.opening jobs start)).2

/-- The instant at which June begins. -/
def june : Instant :=
  .startOf ⟨2024, 6, 1, by decide⟩

/-- Keep the value, and let it expire in June. -/
def untilJune : OverridePatch :=
  ⟨none, .set (some june)⟩

/-- Turn the value off, and keep its expiry. -/
def off : OverridePatch :=
  ⟨some false, .keep⟩

/-- What the first instance makes of a patch. -/
def ended (patch : OverridePatch) (world : World) : Except ServiceError (Option Override) × World :=
  patched 0 service target false patch world

end Twice

open Twice in
/-- A flag that is on gets an expiry and is then turned off, and one patch would do the same. -/
theorem patches_merge_and_compose_twice :
    Run (.opening jobs start) on ∧ target.check = .ok () ∧ ¬service.Refuses target false ∧
      ∃ stored, (ended untilJune on.world).1 = .ok (some stored) ∧
        stored.state = ⟨true, some june⟩ ∧
          EndAlike 0 target (ended (untilJune.andThen off) on.world)
            (ended off (ended untilJune on.world).2) := by
  have plainYears (number : Nat) : (jobs number).task.HasPlainYears := by
    unfold jobs
    split
    · rintro expiry ⟨⟩
    · trivial
  have nothingCached (reader : Nat) (cacheKey : String) : start.held reader cacheKey = none := by
    match reader with
    | 0 => rfl
    | 1 => rfl
    | _ + 2 => rfl
  have plain : ArePlain turns (.opening jobs start) := by decide +kernel
  have run : Run (.opening jobs start) on := plain.run
  have valid : target.check = .ok () := by rfl
  have permitted : ¬service.Refuses target false := fun refuses => absurd refuses.1 (by decide)
  have working : on.world.instances[0]?.map Instance.backends = some {} := by decide +kernel
  have up : IsUp 0 on.world := Option.map_eq_some_iff.mp working
  obtain ⟨current, seen, patches⟩ := patches_merge_and_compose plainYears rfl nothingCached
    run (by decide +kernel) up valid permitted
  have isOn : on.world.overrideSeen 0 target = some (.ok (some ⟨true, none⟩)) := by decide +kernel
  obtain rfl : current = some ⟨true, none⟩ := by
    rw [isOn] at seen
    exact (Except.ok.inj (Option.some.inj seen)).symm
  have expires : untilJune.HasPlainYear := by
    rintro _ ⟨⟩ _ ⟨⟩
    decide
  have keeps : off.HasPlainYear := by
    rintro _ ⟨⟩
  obtain ⟨_, stores⟩ := patches untilJune expires (by decide +kernel)
  obtain ⟨stored, ends, merges, composes⟩ := stores nofun
  have state : stored.state = ⟨true, some june⟩ := by
    have value : some true = some stored.value := merges.value
    have expiry : stored.expiresAt = some june := merges.setExpiry _ rfl
    rw [Override.state, expiry, ← Option.some.inj value]
  have stillUp : (ended untilJune on.world).2.instances[0]?.map Instance.backends = some {} := by
    decide +kernel
  have shows : (ended untilJune on.world).2.overrideSeen 0 target =
      some (.ok (some stored.state)) := by
    rw [state]
    decide +kernel
  have spares (now : Instant) : Spares target now (.getOverride target) :=
    ⟨trivial, by simp [Guarding.Task.target?], fun _ _ isSweep => by cases isSweep⟩
  exact ⟨run, valid, permitted, stored, ends, state,
    composes off (fun _ => ⟨1, service, .getOverride target⟩) (.opening _ _) keeps
      (fun _ => spares _) (.still _) (Option.map_eq_some_iff.mp stillUp)
      (by decide +kernel) ⟨_, shows⟩ (by decide +kernel) (by decide +kernel)⟩

namespace Uncovered

/--
One instance turns the flag on until June, another reads it, and the first turns it on for good.
-/
def jobs : Nat → Job
  | 0 => ⟨0, Twice.service, .setOverride Twice.target true (some Twice.june) false⟩
  | 1 => ⟨1, Twice.service, .getOverride Twice.target⟩
  | _ => ⟨0, Twice.service, .setOverride Twice.target true none false⟩

/-- All jobs are done, and then it is July. -/
def turns : List Turn :=
  List.replicate 6 (.resume 0) ++ List.replicate 8 (.resume 1) ++ List.replicate 6 (.resume 2) ++
    [.meanwhile (.pass (.startOf ⟨2024, 7, 14, by decide⟩))]

/-- The second instance has not heard yet that its copy, which has expired, is out of date. -/
def behind : Floor jobs :=
  (takeTurns turns (.opening jobs Twice.start)).2

end Uncovered

open Uncovered in
/--
A patch without a value that finds nothing in force makes an override visible, since it drops a
copy that is out of date; and of a patch with a value an instance that still has such a copy shows
nothing.
-/
theorem patch_uncovers_override :
    Run (.opening jobs Twice.start) behind ∧
      behind.world.overrideSeen 1 Twice.target = some (.ok none) ∧
        (patched 1 Twice.service Twice.target false ⟨none, .keep⟩ behind.world).1 = .ok none ∧
          (patched 1 Twice.service Twice.target false ⟨none, .keep⟩
            behind.world).2.overrideSeen 1 Twice.target = some (.ok (some ⟨true, none⟩)) ∧
              ((patched 0 Twice.service Twice.target false Twice.off behind.world).1.map
                fun stored? => stored?.map Override.state) = .ok (some ⟨false, none⟩) ∧
                (patched 0 Twice.service Twice.target false Twice.off
                  behind.world).2.overrideSeen 1 Twice.target = some (.ok none) := by
  have plain : ArePlain turns (.opening jobs Twice.start) := by decide +kernel
  refine ⟨plain.run, ?_, ?_, ?_, ?_, ?_⟩ <;> decide +kernel

end Switchboard.Patching
