import Switchboard.Proofs.Staleness.Copies
import Switchboard.Proofs.Store.Shown
import Switchboard.Proofs.Wire.RoundTrip

namespace Switchboard.Staleness

/-!
# Bounded staleness of overrides

An instance that missed the news answers with the copy that it has.  As long as the copy is
in force, that answer was right within the last lifetime.  Once the copy has expired, the
instance answers that there is no override, without asking the store; where the override
was given a later expiry meanwhile, that was true at no moment.
-/

variable {start world : World} {past : List World}

/-- The store itself gave this answer at a moment, no longer than a lifetime ago. -/
def GivenWithin (lifetime : Nat) (moments : List World) (clock : Nat) (scope : Scope)
    (answer : Except ServiceError (Option OverrideValue)) : Prop :=
  ∃ moment ∈ moments, clock ≤ moment.clock + lifetime ∧
    moment.database.overrides.find scope moment.calendar = answer

/--
The instance has a copy that has expired, while at all moments of the last lifetime the
store shows an override.  Between moments only time passes, which brings none back.
-/
def IsOutlived (lifetime : Nat) (moments : List World) (world : World) (place : Nat)
    (scope : Scope) : Prop :=
  (∃ copy, world.cachedOverride place scope = some copy ∧
      copy.isActive world.calendar = false) ∧
    ∀ moment ∈ moments, world.clock ≤ moment.clock + lifetime →
      ∃ shown, moment.database.overrides.find scope moment.calendar = .ok (some shown)

/--
The scope has names that no caller of the service may use, and shares its key with
another scope, whose copy is in force.
-/
def IsMistaken (world : World) (place : Nat) (scope : Scope) : Prop :=
  ¬scope.HasValidNames ∧
    ∃ copy, world.cachedOverride place scope = some copy ∧ copy.isActive world.calendar = true

/-! ## The moments of a run -/

/-- What holds of every moment of a run from a world without rows and instances. -/
structure IsMoment (world moment : World) : Prop where
  recorded : moment.database.overrides.IsRecorded moment.calendar
  named : moment.database.overrides.HasOnly Scope.HasValidNames
  storable : moment.calendar.IsStorable
  ordered : moment.calendar ≤ world.calendar

section Moments

variable (noInstances : start.instances = [])
  (noRows : start.database.overrides = {})
  (startStorable : start.calendar.IsStorable)
include noInstances noRows startStorable

private theorem isMoment_self (run : Run start past world) : IsMoment world world := by
  have began := World.isWorking_of_no_instances noInstances
  have storable := run.storable startStorable
  exact {
    recorded := run.reachable.isRecorded began noRows startStorable storable.plainYear
    named := run.hasValidNames began noRows
    storable
    ordered := Int.le_refl _ }

private theorem isMoment_of_mem (run : Run start past world) {moment : World}
    (isMoment : moment ∈ world :: past) :
    IsMoment world moment := by
  rcases List.mem_cons.mp isMoment with rfl | isPast
  · exact isMoment_self noInstances noRows startStorable run
  · obtain ⟨⟨earlier, shorter⟩, goesOn⟩ := run.of_moment isPast
    have there := isMoment_self noInstances noRows startStorable shorter
    have began := World.isWorking_of_no_instances noInstances
    exact { there with ordered := goesOn.ordered (shorter.reachable.isWorking began) }

end Moments

/-- The store has an answer at every moment. -/
private theorem IsMoment.finds {moment : World} (is : IsMoment world moment) (scope : Scope) :
    ∃ shown?, moment.database.overrides.find scope moment.calendar = .ok shown? := by
  obtain ⟨state?, finds, _⟩ := is.recorded.find_eq scope
  exact ⟨_, finds moment.calendar is.storable⟩

/-- A moment that ever showed a value which is still in force later shows it then. -/
private theorem IsMoment.shows {moment : World} (is : IsMoment world moment) {scope : Scope}
    {seenAt : Instant} {value : OverrideValue}
    (seen : moment.database.overrides.find scope seenAt = .ok (some value))
    (active : value.isActive world.calendar = true) :
    moment.database.overrides.find scope moment.calendar = .ok (some value) := by
  obtain ⟨state?, finds, isState⟩ := is.recorded.find_eq scope
  rw [finds moment.calendar is.storable, isState seenAt value seen, Option.filter_some,
    OverrideValue.isActive_mono is.ordered active]
  rfl

/-- A copy that an instance finds is one that the store showed within the last lifetime. -/
private theorem copy_of_cached (recent : CopiesAreRecent past world) {place : Nat}
    {state : Instance} (present : world.instances[place]? = some state) {scope : Scope}
    {copy : OverrideValue} (cached : world.cachedOverride place scope = some copy) :
    ∃ moment ∈ past, world.clock ≤ moment.clock + state.service.layer.lifetime ∧
      ∃ other seenAt, overrideCacheKey scope = overrideCacheKey other ∧
        moment.database.overrides.find other seenAt = .ok (some copy) := by
  obtain ⟨text, given, decoded⟩ := Option.bind_eq_some_iff.mp cached
  obtain ⟨entry, entered, isText, live⟩ := World.entry_of_given given
  have held : state.cache.find? (overrideCacheKey scope) = some entry := by
    unfold World.entryAt at entered
    rw [present] at entered
    exact entered
  rcases recent place state present _ entry held with ⟨environment, key, isFlag⟩ | isRecent
  · exact absurd isFlag.symm (flagCacheKey_ne_overrideCacheKey environment key scope)
  · obtain ⟨moment, isPast, bound, other, seenAt, value, sameKey, seen, isValue⟩ := isRecent
    have seenShown := OverrideTable.isShown_of_find seen
    rw [← isText, isValue, FaithfulWire.decode_encode_of_isShown seenShown] at decoded
    cases decoded
    exact ⟨moment, isPast, by omega, other, seenAt, sameKey, seen⟩

/-! ## The answers -/

/-- A copy in force is the answer, and it is right for the scope that was copied. -/
private theorem givenWithin_of_active
    (moments : ∀ moment ∈ world :: past, IsMoment world moment)
    (recent : CopiesAreRecent past world) {place : Nat}
    {state : Instance} (present : world.instances[place]? = some state) {scope : Scope}
    {copy : OverrideValue} (cached : world.cachedOverride place scope = some copy)
    (active : copy.isActive world.calendar = true) :
    GivenWithin state.service.layer.lifetime (world :: past) world.clock scope (.ok (some copy)) ↔
      scope.HasValidNames := by
  constructor
  · rintro ⟨moment, isMoment, _, found⟩
    exact (moments moment isMoment).named.of_find found
  · intro valid
    obtain ⟨moment, isPast, bound, other, seenAt, sameKey, seen⟩ :=
      copy_of_cached recent present cached
    have is := moments moment (List.mem_cons_of_mem world isPast)
    obtain rfl := (overrideCacheKey_inj valid (is.named.of_find seen)).mp sameKey
    exact ⟨moment, List.mem_cons_of_mem world isPast, bound, is.shows seen active⟩

/-- Absence was right at a moment exactly when the store did not show an override at all. -/
private theorem givenWithin_none_iff
    (moments : ∀ moment ∈ world :: past, IsMoment world moment) (lifetime : Nat) (scope : Scope) :
    GivenWithin lifetime (world :: past) world.clock scope (.ok none) ↔
      ¬∀ moment ∈ world :: past, world.clock ≤ moment.clock + lifetime →
        ∃ shown, moment.database.overrides.find scope moment.calendar = .ok (some shown) := by
  constructor
  · rintro ⟨moment, isMoment, bound, absent⟩ always
    obtain ⟨shown, found⟩ := always moment isMoment bound
    cases absent.symm.trans found
  · intro sometimes
    by_contra never
    refine sometimes fun moment isMoment bound => ?_
    obtain ⟨shown?, found⟩ := (moments moment isMoment).finds scope
    cases shown? with
    | none => exact absurd ⟨moment, isMoment, bound, found⟩ never
    | some shown => exact ⟨shown, found⟩

/--
Whatever instances do in whatever order, and whatever becomes of the news: what a read of an
override gives at some instant the store itself gave at a moment no longer than a lifetime
before, unless the copy of the instance was outlived by the override, or the scope is one
that no caller may name.  A copy that was outlived makes the read answer that there is no
override.
-/
theorem override_answers_are_recent_iff
    (noInstances : start.instances = [])
    (noRows : start.database.overrides = {})
    (startStorable : start.calendar.IsStorable)
    (run : Run start past world)
    {place : Nat} {state : Instance}
    (present : world.instances[place]? = some state)
    (scope : Scope) :
    let lifetime := state.service.layer.lifetime
    let answer := (world.perform place
      (state.service.layer.getOverrideAt scope world.calendar)).1
    (GivenWithin lifetime (world :: past) world.clock scope answer ↔
        ¬IsOutlived lifetime (world :: past) world place scope ∧ ¬IsMistaken world place scope) ∧
      (IsOutlived lifetime (world :: past) world place scope → answer = .ok none) := by
  intro lifetime answer
  have began := World.isWorking_of_no_instances noInstances
  have working := run.reachable.isWorking began
  have moments (moment : World) (isMoment : moment ∈ world :: past) : IsMoment world moment :=
    isMoment_of_mem noInstances noRows startStorable run isMoment
  have recent := run.copiesAreRecent noInstances
  obtain ⟨later, reads, _⟩ :=
    World.perform_getOverrideAt present (working _ state present) state.service.layer scope
      world.calendar
  have answers : answer = world.overrideAt place scope world.calendar := congrArg Prod.fst reads
  rw [answers]
  unfold World.overrideAt IsOutlived IsMistaken
  cases cached : world.cachedOverride place scope with
  | none =>
      have now : GivenWithin lifetime (world :: past) world.clock scope
          (world.database.overrides.find scope world.calendar) :=
        ⟨world, List.mem_cons_self, Nat.le_add_right _ _, rfl⟩
      simp [now]
  | some copy =>
      cases active : copy.isActive world.calendar with
      | true =>
          have right := givenWithin_of_active moments recent present cached active
          simp [active, right, lifetime]
      | false =>
          have right := givenWithin_none_iff moments lifetime scope
          simp [active, right]

namespace Extended

/-- The scope of the override. -/
def target : Scope :=
  .user "prod" "beta.search" "u1"

/-- An instant of the first minute of a day. -/
def atSecond (second : Fin 60) : Instant :=
  ⟨Instant.mayDay.date, second, 0, by omega⟩

/-- A database without rows, before two instances join that do not listen. -/
def empty : World where
  calendar := atSecond 0

/-- Both instances have joined. -/
def joined : World :=
  (empty.addInstance { listens := false }).addInstance { listens := false }

/-- The first turns a flag on for a user for half a minute. -/
def written : World :=
  (Event.move (.work 0 (.upsertOverride target true (some (atSecond 30))))).take joined

/-- Twenty seconds have passed. -/
def later : World :=
  (Event.move (.pass 20000 (atSecond 20))).take written

/-- The second reads that. -/
def copied : World :=
  (Event.move (.work 1 (.getOverride target))).take later

/-- The first turns the flag on without an end. -/
def extended : World :=
  (Event.move (.work 0 (.upsertOverride target true none))).take copied

/-- The half minute is over. -/
def expired : World :=
  (Event.move (.pass 20000 (atSecond 40))).take extended

/-- The worlds before the half minute is over, the last one first. -/
def moments : List World :=
  [extended, copied, later, written, joined, empty.addInstance { listens := false }, empty]

private theorem run : Run empty moments expired := by
  have valid : target.HasValidNames := by decide
  have first : Run empty [empty] (empty.addInstance { listens := false }) :=
    .next (.move (.join { listens := false })) .start trivial (by decide +kernel)
  have both : Run empty _ joined :=
    first.next (.move (.join { listens := false })) trivial (by decide +kernel)
  have wrote : Run empty _ written :=
    both.next (.move (.work 0 (.upsertOverride target true _))) valid (by decide +kernel)
  have ordered : written.calendar ≤ atSecond 20 := by decide +kernel
  have passed : Run empty _ later :=
    wrote.next (.move (.pass 20000 (atSecond 20))) ordered (by decide +kernel)
  have read : Run empty _ copied :=
    passed.next (.move (.work 1 (.getOverride target))) trivial (by decide +kernel)
  have rewrote : Run empty _ extended :=
    read.next (.move (.work 0 (.upsertOverride target true none))) valid (by decide +kernel)
  have orderedAgain : extended.calendar ≤ atSecond 40 := by decide +kernel
  exact rewrote.next (.move (.pass 20000 (atSecond 40))) orderedAgain (by decide +kernel)

end Extended

open Extended in
/-- The flag is on for the user all the time, and the second instance reads that it is not. -/
theorem override_answers_are_recent_iff_extended :
    Run empty moments expired ∧
      ∃ state, expired.instances[1]? = some state ∧
        IsOutlived 30000 (expired :: moments) expired 1 target ∧
          let answer := (expired.perform 1
            (state.service.layer.getOverrideAt target expired.calendar)).1
          answer = .ok none ∧
            ¬GivenWithin 30000 (expired :: moments) expired.clock target answer := by
  have served : expired.instances[1]?.map (fun state => state.service.layer.lifetime) =
      some 30000 := by
    decide +kernel
  obtain ⟨state, present, lifetime⟩ := Option.map_eq_some_iff.mp served
  have outlived : IsOutlived 30000 (expired :: moments) expired 1 target := by
    refine ⟨⟨⟨true, some (atSecond 30)⟩, by decide +kernel, by decide +kernel⟩, ?_⟩
    have shows : ∀ moment ∈ expired :: moments, expired.clock ≤ moment.clock + 30000 →
        (moment.database.overrides.find target moment.calendar).toOption.join.isSome := by
      decide +kernel
    intro moment isMoment bound
    have shown := shows moment isMoment bound
    cases found : moment.database.overrides.find target moment.calendar with
    | error error =>
        rw [found] at shown
        cases shown
    | ok shown? =>
        rw [found] at shown
        obtain ⟨value, rfl⟩ := Option.isSome_iff_exists.mp shown
        exact ⟨value, rfl⟩
  have answers := override_answers_are_recent_iff rfl rfl (by decide) run present target
  rw [lifetime] at answers
  exact ⟨run, state, present, outlived, answers.2 outlived,
    fun given => (answers.1.mp given).1 outlived⟩

end Switchboard.Staleness
