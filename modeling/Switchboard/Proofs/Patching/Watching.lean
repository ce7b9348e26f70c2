import Switchboard.Proofs.CacheKeys
import Switchboard.Proofs.Patching.Patches
import Switchboard.Proofs.Store.ReadBack
import Switchboard.Proofs.Validity.Runs

namespace Switchboard.Guarding.Task

/-- The scope of the override that a task changes. -/
def target? : Task → Option Scope
  | setOverride scope .. => some scope
  | patchOverride scope .. => some scope
  | clearOverride scope _ => some scope
  | _ => none

/-- The expiries that a task gives to overrides have years of four digits. -/
def HasPlainYears : Task → Prop
  | setOverride _ _ expiresAt _ => ∀ expiry ∈ expiresAt, expiry.HasPlainYear
  | patchOverride _ patch _ => patch.HasPlainYear
  | _ => True

end Switchboard.Guarding.Task

namespace Switchboard.Patching

open Guarding (Floor Happening Job LetsSpare Task Turn takeTurns)

/-!
# One override among others

Jobs of any instances go on by turns, while backends come and go and invalidations are late or
lost.  In years of four digits all rows can be read back, and so can all copies of them.  A state
that the store shows of one scope, and one instance with it, stays shown while nobody writes that
scope and no sweep is ahead of the readers.
-/

/-- A state of a scope, and the instants at which readers look at it. -/
structure Watch where
  scope : Scope
  state : OverrideValue
  times : Instant → Prop
  valid : scope.HasValidNames
  storable : ∀ now, times now → now.IsStorable

namespace Watch

/-- The watch of a scope at no instant. -/
def idle {scope : Scope} (valid : scope.HasValidNames) : Watch where
  scope := scope
  state := ⟨false, none⟩
  times _ := False
  valid := valid
  storable _ isTime := isTime.elim

/-- The watch of a state at one instant. -/
def once {scope : Scope} {now : Instant} (valid : scope.HasValidNames) (storable : now.IsStorable)
    (state : OverrideValue) : Watch where
  scope := scope
  state := state
  times time := time = now
  valid := valid
  storable _ same := same ▸ storable

variable (watch : Watch)

/-- What is seen of another state at the instants of the watch is what is seen of this one. -/
def Shows (state : OverrideValue) : Prop :=
  ∀ now, watch.times now → state.inForce now = watch.state.inForce now

/-- What a store may find of a scope, and readers may cache of it. -/
structure Allows (scope : Scope) (state : OverrideValue) : Prop where
  named : scope.HasValidNames
  stored : state.IsStored
  shows : scope = watch.scope → watch.Shows state

/-- Whether a scope may be written: there is no instant at which it is watched. -/
def LetsWrite (scope : Scope) : Prop :=
  scope = watch.scope → ∀ now, ¬watch.times now

/-- What is asked of a deployment where the state stays shown, and what it replies. -/
def terms : Terms where
  asks
    | .call (.cacheSet cacheKey text _) =>
        (∃ environment key, cacheKey = flagCacheKey environment key) ∨
          ∃ scope state, watch.Allows scope state ∧ cacheKey = overrideCacheKey scope ∧
            text = Wire.encode state
    | .call (.upsertOverride scope _ expiresAt) =>
        scope.HasValidNames ∧ watch.LetsWrite scope ∧ ∀ expiry ∈ expiresAt, expiry.HasPlainYear
    | .call (.clearOverride scope) => watch.LetsWrite scope
    | .purge _ sweptAt => ∀ now, watch.times now → sweptAt.IsStorable ∧ sweptAt ≤ now
    | _ => True
  gives
    | .call (.findOverride scope _), outcome =>
        ∀ state, outcome = .answered (some state) → watch.Allows scope state
    | .call (.cacheGet cacheKey), outcome =>
        ∀ scope text (copy : OverrideValue), cacheKey = overrideCacheKey scope →
          outcome = .answered (some text) → Wire.decode? text = some copy → copy.IsStored
    | _, _ => True

/-- The rows can be read back, have valid names, and show the state at its instants. -/
structure IsToldBy (table : OverrideTable) : Prop where
  regular : table.IsRegular
  named : table.HasOnly Scope.HasValidNames
  found : ∀ now, watch.times now → table.find watch.scope now = .ok (watch.state.inForce now)

/-- So it is with the copies of all instances, and the one of a reader shows the state. -/
structure IsKept (reader : Nat) (world : World) : Prop where
  rows : watch.IsToldBy world.database.overrides
  stored : ∀ place scope text (copy : OverrideValue),
    world.held place (overrideCacheKey scope) = some text → Wire.decode? text = some copy →
      copy.IsStored
  copies : ∀ text (copy : OverrideValue),
    world.held reader (overrideCacheKey watch.scope) = some text →
      Wire.decode? text = some copy → watch.Shows copy

/-- A task that leaves the state shown, and gives no expiry that cannot be read back. -/
structure Lets (task : Task) : Prop where
  plainYears : task.HasPlainYears
  writes : ∀ scope ∈ task.target?, watch.LetsWrite scope
  sweeps : ∀ sweptAt limit, task = .sweep sweptAt limit → ∀ now, watch.times now →
    sweptAt.IsStorable ∧ sweptAt ≤ now

/-- The state is shown, and nobody goes on to change that. -/
structure IsOver (reader : Nat) {jobs : Nat → Job} (floor : Floor jobs) : Prop where
  kept : watch.IsKept reader floor.world
  programs : ∀ number, (floor.programs number).Abides watch.terms (FailsOnlyBy fun _ => True)

end Watch

variable {watch : Watch} {world later : World} {place reader : Nat} {scope : Scope}
  {now : Instant}

/-! ## Requests -/

section Rows

variable {table : OverrideTable} (told : watch.IsToldBy table)
include told

/-- What the store finds may be cached. -/
theorem Watch.IsToldBy.allows {state : OverrideValue}
    (seen : table.find scope now = .ok (some state)) :
    watch.Allows scope state where
  named := told.named.of_find seen
  stored := told.regular.sound.isStored_of_find seen
  shows isHere time isTime := by
    subst isHere
    have finds := told.regular.sound.find_of_seen seen time (watch.storable time isTime)
    exact Except.ok.inj (finds.symm.trans (told.found time isTime))

private theorem isToldBy_upsert (allowed : scope.HasValidNames) (lets : watch.LetsWrite scope)
    {expiresAt : Option Instant}
    (plainYears : ∀ expiry ∈ expiresAt, expiry.HasPlainYear)
    (plainYear : now.HasPlainYear)
    (id : OverrideId) (value : Bool) :
    watch.IsToldBy (table.upsert id scope value expiresAt now).2 where
  regular := told.regular.upsert id scope value plainYears plainYear
  named := OverrideTable.hasOnly_upsert_iff.mpr ⟨told.named, allowed⟩
  found time isTime := by
    have different : watch.scope ≠ scope := fun same => lets same.symm time isTime
    rw [OverrideTable.find_upsert_other id value expiresAt now time different]
    exact told.found time isTime

private theorem isToldBy_softDelete (lets : watch.LetsWrite scope)
    (plainYear : now.HasPlainYear) :
    watch.IsToldBy (table.softDelete scope now) where
  regular := told.regular.softDelete scope plainYear
  named := OverrideTable.hasOnly_softDelete_iff.mpr told.named
  found time isTime := by
    have different : watch.scope ≠ scope := fun same => lets same.symm time isTime
    rw [OverrideTable.find_softDelete_other now time different]
    exact told.found time isTime

private theorem isToldBy_purge
    (timely : ∀ time, watch.times time → now.IsStorable ∧ now ≤ time)
    (ids : List OverrideId) :
    watch.IsToldBy (table.purge now ids).2 where
  regular := told.regular.purge now ids
  named := told.named.purge now ids
  found time isTime := by
    obtain ⟨sweptStorable, ordered⟩ := timely time isTime
    rw [OverrideTable.find_purge ids sweptStorable (watch.storable time isTime) ordered]
    exact told.found time isTime

end Rows

/-- A text that a request brings is a copy that is allowed. -/
private theorem allows_of_set {cacheKey text : String} {lifetime : Nat} {copy : OverrideValue}
    (asks : watch.terms.asks (.call (.cacheSet cacheKey text lifetime)))
    (isHere : cacheKey = overrideCacheKey scope)
    (decoded : Wire.decode? text = some copy) :
    ∃ other, overrideCacheKey other = overrideCacheKey scope ∧ watch.Allows other copy := by
  rcases asks with ⟨environment, key, isFlag⟩ | ⟨other, state, allows, isKey, rfl⟩
  · exact absurd (isFlag.symm.trans isHere) (flagCacheKey_ne_overrideCacheKey environment key scope)
  · have shown : Dated.IsShown state := by
      obtain ⟨value, expiresAt⟩ := state
      exact fun expiry isExpiry => (allows.stored expiry isExpiry).1.isShown
    rw [FaithfulWire.decode_encode_of_isShown shown] at decoded
    cases decoded
    exact ⟨other, isKey.symm.trans isHere, allows⟩

namespace Watch.IsKept

variable (kept : watch.IsKept reader world)
include kept

/-- Where the rows stay and texts only go, everything stays. -/
theorem of_losing
    (database : later.database = world.database)
    (losing : ∀ place cacheKey text, later.held place cacheKey = some text →
      world.held place cacheKey = some text) :
    watch.IsKept reader later where
  rows := database ▸ kept.rows
  stored place scope text copy held decoded :=
    kept.stored place scope text copy (losing _ _ _ held) decoded
  copies text copy held decoded := kept.copies text copy (losing _ _ _ held) decoded

private theorem isToldBy_handle {request : Request} (plainYear : world.calendar.HasPlainYear)
    (asks : watch.terms.asks request) :
    watch.IsToldBy (world.handle place request).2.database.overrides := by
  have effect := World.effect_handle world place request
  generalize (world.handle place request).2 = changed at effect
  cases effect with
  | upserted scope value expiresAt =>
      obtain ⟨allowed, lets, plainYears⟩ := asks
      exact isToldBy_upsert kept.rows allowed lets plainYears plainYear world.nextId value
  | cleared scope => exact isToldBy_softDelete kept.rows asks plainYear
  | purged ids sweptAt => exact isToldBy_purge kept.rows asks ids
  | hung _ milliseconds _ =>
      exact (World.sameStores_advance world milliseconds).database ▸ kept.rows
  | nothing => exact kept.rows
  | lookedUp cacheKey state present => exact kept.rows
  | cached cacheKey text lifetime => exact kept.rows
  | dropped cacheKey => exact kept.rows
  | published topic event => exact kept.rows
  | wrote write expected => exact kept.rows
  | ticked => exact kept.rows
  | counted counter amount => exact kept.rows
  | observed keys => exact kept.rows
  | logged records state present => exact kept.rows

/-- A request that keeps to the terms is replied to within them, and keeps everything. -/
theorem handle {request : Request} (plainYear : world.calendar.HasPlainYear)
    (asks : watch.terms.asks request) :
    watch.terms.gives request (world.handle place request).1 ∧
      watch.IsKept reader (world.handle place request).2 := by
  have held := (World.keepsCaches_handle world place request).held
  refine ⟨?_, kept.isToldBy_handle plainYear asks, fun other scope text copy holds decoded => ?_,
    fun text copy holds decoded => ?_⟩
  · cases request with
    | call asked =>
        cases asked with
        | findOverride scope now =>
            exact fun state answered => kept.rows.allows (World.found_of_answered answered)
        | cacheGet cacheKey =>
            rintro scope text copy rfl answered decoded
            exact kept.stored place scope text copy (World.held_of_answered answered) decoded
        | _ => trivial
    | _ => trivial
  · rcases held other _ text holds with old | ⟨_, lifetime, rfl⟩
    · exact kept.stored other scope text copy old decoded
    · obtain ⟨_, _, allows⟩ := allows_of_set asks rfl decoded
      exact allows.stored
  · rcases held reader _ text holds with old | ⟨_, lifetime, rfl⟩
    · exact kept.copies text copy old decoded
    · obtain ⟨other, sameKey, allows⟩ := allows_of_set asks rfl decoded
      exact allows.shows ((overrideCacheKey_inj allows.named watch.valid).mp sameKey)

/-- Whatever else happens to the deployment keeps everything. -/
theorem meanwhile (happening : Happening) : watch.IsKept reader (happening.take world) := by
  rcases happening.sameStores_take world with same | ⟨place, backends, rfl⟩
  · exact kept.of_losing same.database same.losing
  · refine kept.of_losing rfl fun other cacheKey text held => ?_
    rcases World.held_or_changed held with old | ⟨_, state, present, changed⟩
    · exact old
    · exact (World.held_of_present present cacheKey).trans changed

end Watch.IsKept

/-! ## Jobs -/

private theorem letsSpare (watch : Watch) (service : Service) :
    LetsSpare watch.terms service fun _ => True where
  mild request mild := by
    cases request with
    | call asked =>
        cases asked with
        | cacheSet cacheKey text lifetime => cases mild
        | upsertOverride scope value expiresAt => cases mild
        | clearOverride scope => cases mild
        | _ => trivial
    | purge ids now => cases mild
    | _ => trivial
  fills := {
    flags := by
      intro environment key flag given
      exact .inl ⟨environment, key, rfl⟩
    overrides := by
      intro scope now state given
      exact .inr ⟨scope, state, given state rfl, rfl, rfl⟩ }
  wrong := .anyhow _

private theorem failsOnlyBy_trivial (outcome : Except ServiceError α) :
    FailsOnlyBy (fun _ => True) outcome :=
  fun _ _ => trivial

/-- What a patch reads can be read back from a row, whether it was cached or found. -/
private theorem abides_current (watch : Watch) (layer : Layer) (scope : Scope) :
    (layer.getOverride scope).Abides watch.terms fun outcome =>
      ∀ current, outcome = .ok current → ∀ state ∈ current, state.IsStored := by
  have lets := letsSpare watch ⟨⟨⟨layer, .propagate⟩, ""⟩, {}⟩
  refine Layer.abides_getOverride (lets.inquires _ trivial) fun now _ =>
    Layer.abides_getOverrideAt lets.inquires ?_ ?_ (lets.fills.overrides scope now)
  · rintro text copy given decoded _ ⟨⟩ state seen
    obtain ⟨isCopy, _⟩ := Option.filter_eq_some_iff.mp seen
    cases isCopy
    exact given scope text copy rfl rfl decoded
  · rintro outcome given current isCurrent state seen
    cases outcome with
    | answered found =>
        cases isCurrent
        exact (given state (congrArg Outcome.answered seen)).stored
    | failed error => cases isCurrent
    | timedOut => cases isCurrent

/-- A job whose task is let go on keeps to the terms. -/
theorem Watch.Lets.abides (job : Job) (lets : watch.Lets job.task) :
    job.operation.Abides watch.terms (FailsOnlyBy fun _ => True) := by
  obtain ⟨number, service, task⟩ := job
  have spares := letsSpare watch service
  have authorized {α : Type} {scope : Scope} {administrator : Bool} {next : Operation α}
      (goesOn : scope.check = .ok () →
        next.Abides watch.terms (FailsOnlyBy fun _ => True)) :
      (service.authorize scope administrator >>= fun _ => next).Abides watch.terms
        (FailsOnlyBy fun _ => True) :=
    Guarding.authorized_failing spares (fun _ => trivial) (fun _ _ => trivial) goesOn
  have upserts {layer : Layer} {scope : Scope} {value : Bool} {expiresAt : Option Instant}
      (passed : scope.check = .ok ())
      (isTarget : scope ∈ task.target?)
      (plainYears : ∀ expiry ∈ expiresAt, expiry.HasPlainYear) :
      (layer.upsertOverride scope value expiresAt).Abides watch.terms
        (FailsOnlyBy fun _ => True) :=
    Layer.upsertOverride_failing spares.followsUp spares.wrong
      ⟨Scope.hasValidNames_of_check passed, lets.writes scope isTarget, plainYears⟩
  cases task with
  | setOverride scope value expiresAt administrator =>
      exact authorized fun passed => upserts passed rfl lets.plainYears
  | patchOverride scope patch administrator =>
      refine authorized fun passed => Operation.abides_bind
        ((abides_current watch service.layer scope).mono fun outcome stored => ?_)
      cases outcome with
      | error error => exact failsOnlyBy_trivial _
      | ok current =>
          dsimp only
          cases applied : patch.apply current with
          | none => exact Operation.abides_pure (failsOnlyBy_ok none)
          | some next =>
              exact Operation.abides_bind_failing
                (upserts passed rfl (lets.plainYears.apply (stored current rfl) applied))
                fun written => Operation.abides_pure (failsOnlyBy_ok (some written))
  | clearOverride scope administrator =>
      exact authorized fun _ =>
        Layer.clearOverride_failing spares.followsUp spares.wrong (lets.writes scope rfl)
  | sweep sweptAt limit =>
      exact Layer.sweep_failing spares.wrong trivial fun _ => lets.sweeps sweptAt limit rfl
  | _ =>
      exact Task.abides_of_spares spares _ rfl (fun _ _ _ _ => trivial) fun _ _ => trivial

/-! ## Runs -/

variable {jobs : Nat → Job}

/-- Turns that are taken one after the other, each in a year of four digits. -/
inductive Run : Floor jobs → Floor jobs → Prop where
  | still (floor : Floor jobs) : Run floor floor
  | next {floor last : Floor jobs} (turn : Turn) :
      floor.world.calendar.HasPlainYear → Run (turn.take floor).2 last → Run floor last

/-- Whether all of some turns are taken in years of four digits. -/
def ArePlain : List Turn → Floor jobs → Prop
  | [], _ => True
  | turn :: rest, floor =>
      floor.world.calendar.HasPlainYear ∧ ArePlain rest (turn.take floor).2

instance decidableArePlain : (turns : List Turn) → (floor : Floor jobs) →
    Decidable (ArePlain turns floor)
  | [], _ => isTrue trivial
  | turn :: rest, floor =>
      have := decidableArePlain rest (turn.take floor).2
      inferInstanceAs (Decidable (_ ∧ _))

/-- Turns in years of four digits are a run. -/
theorem ArePlain.run {turns : List Turn} {floor : Floor jobs} (plain : ArePlain turns floor) :
    Run floor (takeTurns turns floor).2 := by
  induction turns generalizing floor with
  | nil => exact .still floor
  | cons turn rest inductionHypothesis => exact .next turn plain.1 (inductionHypothesis plain.2)

namespace Watch.IsOver

variable {floor last : Floor jobs}

theorem opening (kept : watch.IsKept reader world)
    (lets : ∀ number, watch.Lets (jobs number).task) :
    watch.IsOver reader (.opening jobs world) where
  kept := kept
  programs number := Watch.Lets.abides (jobs number) (lets number)

private theorem resume (isOver : watch.IsOver reader floor)
    (plainYear : floor.world.calendar.HasPlainYear)
    (number : Nat) :
    watch.IsOver reader ((Turn.resume number).take floor).2 := by
  have abides := isOver.programs number
  cases waiting : floor.programs number with
  | done outcome =>
      simp only [Turn.take, waiting]
      exact isOver
  | step request next =>
      rw [waiting] at abides
      obtain ⟨asks, goesOn⟩ := abides
      obtain ⟨given, kept⟩ := isOver.kept.handle plainYear asks
      simp only [Turn.take, waiting]
      refine ⟨kept, fun other => ?_⟩
      by_cases here : other = number
      · subst here
        simp only [Function.update_self]
        exact goesOn _ given
      · simp only [Function.update_of_ne here]
        exact isOver.programs other

/-- Every turn leaves the state shown. -/
theorem take (isOver : watch.IsOver reader floor) (plainYear : floor.world.calendar.HasPlainYear)
    (turn : Turn) :
    watch.IsOver reader (turn.take floor).2 := by
  cases turn with
  | resume number => exact isOver.resume plainYear number
  | meanwhile happening => exact ⟨isOver.kept.meanwhile happening, isOver.programs⟩

/-- Any number of turns leaves the state shown. -/
theorem of_run (isOver : watch.IsOver reader floor) (run : Run floor last) :
    watch.IsOver reader last := by
  induction run with
  | still floor => exact isOver
  | next turn plainYear _ inductionHypothesis =>
      exact inductionHypothesis (isOver.take plainYear turn)

end Watch.IsOver

end Switchboard.Patching
