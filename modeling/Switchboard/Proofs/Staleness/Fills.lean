import Switchboard.Proofs.Deployment.Lookups
import Switchboard.Proofs.Interleaving.Errands
import Switchboard.Proofs.Layer.Tasks

namespace Switchboard

/-!
# What operations leave in the caches

Only reads fill caches, and only reads of overrides fill them with overrides.  Every other
operation of the storage leaves of the entries of overrides what was there, with the
deadlines that they had.
-/

/-- Fills a cache with flags only, if at all. -/
def Request.FillsFlagsOnly (request : Request) : Prop :=
  ∀ cacheKey text lifetime, request = .call (.cacheSet cacheKey text lifetime) →
    ∃ environment key, cacheKey = flagCacheKey environment key

/-- The conduct of an operation that fills caches with flags only. -/
def Conduct.fillingFlags : Conduct α :=
  ⟨fun _ request => request.FillsFlagsOnly, fun _ _ => True⟩

theorem Conduct.isLenient_fillingFlags : (fillingFlags : Conduct α).IsLenient :=
  fun _ _ harmless cacheKey text lifetime fills => absurd fills (harmless cacheKey text lifetime)

namespace Layer

open Conduct (fillingFlags isLenient_fillingFlags)

variable {past : List Exchange}

private theorem keeps_announceOverride {conduct : Conduct (Except ServiceError Unit)}
    (lenient : conduct.IsLenient)
    (ends : ∀ outcome later, conduct.ends later outcome)
    (layer : Layer) (scope : Scope) :
    (layer.announceOverride scope).Keeps conduct past := by
  refine Operation.keeps_bind (Operation.keeps_ask .readClock ?_ fun now => ?_)
  · exact lenient past _ (by simp [IsHarmless])
  · exact keeps_invalidate lenient fun outcome later _ _ => ends outcome later

/-- A call that fills nothing is followed by something only where it is answered. -/
private theorem keeps_answered {call : Call} {next : call.Answer → Operation α}
    (harmless : IsHarmless (.call call))
    (goes : ∀ value past, (next value).Keeps fillingFlags past) :
    (Operation.call call >>= next).Keeps fillingFlags past := by
  refine Operation.keeps_bind (keeps_harmless_call (isLenient_fillingFlags.ending _) harmless ?_)
  intro reply past _
  cases reply with
  | failed error => trivial
  | timedOut => trivial
  | answered value => exact goes value past

/-- Giving an override a value fills nothing. -/
theorem keeps_upsertOverride (layer : Layer) (scope : Scope) (value : Bool)
    (expiresAt : Option Instant) :
    (layer.upsertOverride scope value expiresAt).Keeps fillingFlags [] := by
  refine keeps_answered (by simp [IsHarmless]) fun stored past => ?_
  refine Operation.keeps_bind (keeps_announceOverride (isLenient_fillingFlags.ending _)
    (fun outcome later => ?_) layer scope)
  cases outcome with
  | ok _ => trivial
  | error error => trivial

/-- Clearing an override fills nothing. -/
theorem keeps_clearOverride (layer : Layer) (scope : Scope) :
    (layer.clearOverride scope).Keeps fillingFlags [] := by
  refine keeps_answered (by simp [IsHarmless]) fun cleared past => ?_
  exact keeps_announceOverride isLenient_fillingFlags (fun _ _ => trivial) layer scope

/-- A sweep fills nothing. -/
theorem keeps_sweep (now : Instant) (limit : Nat) : (sweep now limit).Keeps fillingFlags [] := by
  have asks (request : Request) (harmless : IsHarmless request) : request.FillsFlagsOnly :=
    fun cacheKey text lifetime fills => absurd fills (harmless cacheKey text lifetime)
  refine Operation.keeps_bind (Operation.keeps_ask (.listDead now limit) ?_ fun listed => ?_)
  · exact asks _ (by simp [IsHarmless])
  · cases listed with
    | error error => trivial
    | ok dead =>
        show Operation.Keeps _ _ (if dead.isEmpty then _ else _)
        split
        · trivial
        · refine Operation.keeps_bind (Operation.keeps_ask (.purge _ now) ?_ fun removed => ?_)
          · exact asks _ (by simp [IsHarmless])
          · cases removed with
            | error error => trivial
            | ok count => trivial

end Layer

namespace World

open Layer (Task)

/-- Entries under the keys of flags. -/
def flagEntries (_place : Nat) (cacheKey : String) (_entry : CacheEntry) : Prop :=
  ∃ environment key, cacheKey = flagCacheKey environment key

variable {world : World} {place : Nat}

/-- What a program adds to the caches that fills them with flags only, if at all. -/
private theorem holds_run {conduct : Conduct α} {past : List Exchange} {program : Program α}
    (fillsFlags : ∀ past request, conduct.asks past request → request.FillsFlagsOnly)
    (working : world.IsWorking)
    (keeps : program.Keeps conduct past) :
    Holds flagEntries world (Program.run (World.handle place) program world).2 := by
  induction program generalizing world past with
  | done value => exact .refl world
  | step request resume inductionHypothesis =>
      obtain ⟨asked, goesOn⟩ := keeps
      have first : Holds flagEntries world (world.handle place request).2 := by
        refine (holds_handle working place request).mono ?_
        rintro other cacheKey entry ⟨_, lifetime, fills, _⟩
        exact fillsFlags past request asked cacheKey entry.value lifetime fills
      have stillWorking := working.of_standings first.standings
      exact first.trans_of_keys (inductionHypothesis _ stillWorking (goesOn _))

/-- What an operation adds to the caches that fills them with flags only, if at all. -/
theorem holds_perform {operation : Operation α}
    {conduct : Conduct (Except ServiceError α)}
    (fillsFlags : ∀ past request, conduct.asks past request → request.FillsFlagsOnly)
    (working : world.IsWorking)
    (keeps : operation.Keeps conduct []) :
    Holds flagEntries world (world.perform place operation).2 :=
  holds_run fillsFlags working keeps

/-- Reads and writes of flags add entries of flags at most. -/
private theorem holds_errand (working : world.IsWorking) (layer : Layer) (errand : Errand) :
    Holds flagEntries world (world.perform place (errand.operation layer)).2 := by
  refine holds_perform (fun past request asks => ?_) working (errand.keeps_operation layer)
  cases errand with
  | getFlag environment key =>
      intro cacheKey text lifetime fills
      obtain ⟨isKey, _⟩ := asks cacheKey text lifetime fills
      exact ⟨environment, key, isKey⟩
  | writeFlag write expected =>
      exact fun cacheKey text lifetime fills => absurd fills (asks cacheKey text lifetime)

/-- Giving another form to an answer asks for nothing. -/
private theorem perform_then_pure (operation : Operation α) (change : α → β) :
    (world.perform place (do let value ← operation; return change value)).2 =
      (world.perform place operation).2 := by
  have performs := Operation.perform_bind (World.handle place) operation
    (fun value => pure (change value)) world
  refine (congrArg Prod.snd performs).trans ?_
  show _ = (Operation.perform (World.handle place) operation world).2
  rcases Operation.perform (World.handle place) operation world with ⟨outcome, later⟩
  cases outcome with
  | ok value => rfl
  | error error => rfl

/-- What a read of an override adds: an entry of what the store showed, made now. -/
def FoundNow (world : World) (place : Nat) (layer : Layer) (other : Nat) (cacheKey : String)
    (entry : CacheEntry) : Prop :=
  other = place ∧ entry.expiresAt = world.clock + layer.lifetime ∧
    ∃ scope seenAt value, cacheKey = overrideCacheKey scope ∧
      world.database.overrides.find scope seenAt = .ok (some value) ∧
        entry.value = Wire.encode value

private theorem foundNow_of_fill {layer : Layer} {scope : Scope} {now : Instant} {other : Nat}
    {cacheKey : String} {entry : CacheEntry}
    (fill : other = place ∧ cacheKey = overrideCacheKey scope ∧
      entry.expiresAt = world.clock + layer.lifetime ∧
        ∃ value, world.database.overrides.find scope now = .ok (some value) ∧
          entry.value = Wire.encode value) :
    FoundNow world place layer other cacheKey entry := by
  obtain ⟨here, isKey, deadline, value, found, isText⟩ := fill
  exact ⟨here, deadline, scope, now, value, isKey, found, isText⟩

/-- What a task adds to the caches. -/
theorem holds_task {state : Instance} (working : world.IsWorking)
    (present : world.instances[place]? = some state) (task : Task) :
    Holds (fun other cacheKey entry => flagEntries other cacheKey entry ∨
        FoundNow world place state.service.layer other cacheKey entry)
      world (world.perform place (task.operation state.service.layer)).2 := by
  have flags {later : World} (holds : Holds flagEntries world later) :
      Holds (fun other cacheKey entry => flagEntries other cacheKey entry ∨
        FoundNow world place state.service.layer other cacheKey entry) world later :=
    holds.mono fun _ _ _ isFlag => .inl isFlag
  cases task with
  | getFlag environment key =>
      exact flags (holds_errand working state.service.layer (.getFlag environment key))
  | writeFlag write expected =>
      have holds : Holds flagEntries world (world.perform place
          ((Errand.writeFlag write expected).operation state.service.layer)).2 :=
        holds_errand working state.service.layer (.writeFlag write expected)
      have same : (world.perform place
          ((Errand.writeFlag write expected).operation state.service.layer)).2 =
            (world.perform place (state.service.layer.writeFlag write expected)).2 :=
        perform_then_pure (state.service.layer.writeFlag write expected) some
      rw [same] at holds
      exact flags holds
  | upsertOverride scope value expiresAt =>
      exact flags (holds_perform (fun _ _ asks => asks) working
        (state.service.layer.keeps_upsertOverride scope value expiresAt))
  | clearOverride scope =>
      exact flags (holds_perform (fun _ _ asks => asks) working
        (state.service.layer.keeps_clearOverride scope))
  | getOverride scope =>
      have ticked : ({ world with calendar := world.calendar.next } : World).instances[place]? =
          some state :=
        present
      obtain ⟨later, reads, looks⟩ :=
        perform_getOverrideAt ticked (working place state present) state.service.layer scope
          world.calendar
      have performs := perform_getOverride present state.service.layer scope
      rw [reads] at performs
      have tick : Holds nothing world { world with calendar := world.calendar.next } :=
        .of_instances rfl rfl
      have isLater :
          (world.perform place (Task.operation state.service.layer (.getOverride scope))).2 =
            later :=
        congrArg Prod.snd performs
      rw [isLater]
      exact tick.prepend (looks.holds.mono fun other cacheKey entry found =>
        .inr (foundNow_of_fill found))
  | getOverrideAt scope now =>
      obtain ⟨later, reads, looks⟩ :=
        perform_getOverrideAt present (working place state present) state.service.layer scope now
      have isLater :
          (world.perform place (Task.operation state.service.layer (.getOverrideAt scope now))).2 =
            later :=
        congrArg Prod.snd reads
      rw [isLater]
      exact looks.holds.mono fun other cacheKey entry found => .inr (foundNow_of_fill found)

end World

end Switchboard
