import Switchboard.Proofs.Deployment.Weather
import Switchboard.Proofs.Staleness.Runs

namespace Switchboard.Staleness

open Cluster (Move standing Standing)
open World (flagEntries FoundNow)

/-!
# Copies in the caches

Whatever becomes of invalidations, a cached override is what the store showed at one of the
moments of the run, and that moment is no more than a lifetime before the deadline of the
entry.
-/

/-- An entry is a copy of what the store showed, and stays no longer than a lifetime. -/
def IsRecent (moments : List World) (lifetime : Nat) (cacheKey : String) (entry : CacheEntry) :
    Prop :=
  ∃ moment ∈ moments, entry.expiresAt ≤ moment.clock + lifetime ∧
    ∃ scope seenAt value, cacheKey = overrideCacheKey scope ∧
      moment.database.overrides.find scope seenAt = .ok (some value) ∧
        entry.value = Wire.encode value

/-- All entries are entries of flags or recent copies of overrides. -/
def CopiesAreRecent (moments : List World) (world : World) : Prop :=
  ∀ place state, world.instances[place]? = some state →
    ∀ cacheKey entry, state.cache.find? cacheKey = some entry →
      flagEntries place cacheKey entry ∨
        IsRecent moments state.service.layer.lifetime cacheKey entry

/-- The entries of a later world are earlier ones or of what the store showed. -/
def Carries (before after : World) : Prop :=
  ∀ place state, after.instances[place]? = some state →
    ∀ cacheKey entry, state.cache.find? cacheKey = some entry →
      ∃ old, before.instances[place]? = some old ∧ old.service = state.service ∧
        ((∃ oldEntry, old.cache.find? cacheKey = some oldEntry ∧
            oldEntry.value = entry.value ∧ oldEntry.expiresAt = entry.expiresAt) ∨
          flagEntries place cacheKey entry ∨
            FoundNow before place old.service.layer place cacheKey entry)

variable {world later : World} {past : List World}

/-- What carries the entries keeps them recent. -/
theorem CopiesAreRecent.carry (recent : CopiesAreRecent past world)
    (carries : Carries world later) :
    CopiesAreRecent (world :: past) later := by
  intro place state present cacheKey entry held
  obtain ⟨old, oldPresent, service, origin⟩ := carries place state present cacheKey entry held
  rcases origin with ⟨oldEntry, oldHeld, value, deadline⟩ | isFlag | found
  · rcases recent place old oldPresent cacheKey oldEntry oldHeld with isFlag | isRecent
    · exact .inl isFlag
    · obtain ⟨moment, isPast, bound, scope, seenAt, shown, isKey, seen, isText⟩ := isRecent
      rw [service, deadline] at bound
      exact .inr ⟨moment, List.mem_cons_of_mem world isPast, bound, scope, seenAt, shown, isKey,
        seen, value.symm.trans isText⟩
  · exact .inl isFlag
  · obtain ⟨_, deadline, shows⟩ := found
    rw [service] at deadline
    exact .inr ⟨world, List.mem_cons_self, Nat.le_of_eq deadline, shows⟩

/-! ## What each event carries -/

/-- Nothing is added. -/
private theorem carries_of_continues (continues : World.Continues World.nothing world later) :
    Carries world later := by
  intro place state present cacheKey entry held
  have entered : later.entryAt place cacheKey = some entry :=
    Option.bind_eq_some_iff.mpr ⟨state, present, held⟩
  rcases continues.entries place cacheKey entry entered with ⟨oldEntry, wasHeld, same⟩ | impossible
  · obtain ⟨old, oldPresent, oldHeld⟩ := Option.bind_eq_some_iff.mp wasHeld
    obtain ⟨changed, isPresent, service⟩ := continues.services place old oldPresent
    cases isPresent.symm.trans present
    exact ⟨old, oldPresent, service.symm, .inl ⟨oldEntry, oldHeld, same⟩⟩
  · exact impossible.elim

private theorem carries_refl (world : World) : Carries world world :=
  carries_of_continues (.of_holds (.refl world))

/-- Everybody stays who they are, and only so much is added. -/
private theorem carries_of_holds {added : Nat → String → CacheEntry → Prop}
    (holds : World.Holds added world later)
    (explained : ∀ place old, world.instances[place]? = some old → ∀ cacheKey entry,
      added place cacheKey entry → flagEntries place cacheKey entry ∨
        FoundNow world place old.service.layer place cacheKey entry) :
    Carries world later := by
  intro place state present cacheKey entry held
  have same := holds.standings place
  rw [present, Option.map_some] at same
  obtain ⟨old, oldPresent, oldStanding⟩ := Option.map_eq_some_iff.mp same.symm
  refine ⟨old, oldPresent, congrArg Standing.service oldStanding, ?_⟩
  have entered : later.entryAt place cacheKey = some entry := by
    unfold World.entryAt
    rw [present]
    exact held
  rcases holds.entries place cacheKey entry entered with ⟨oldEntry, oldEntered, same⟩ | isNew
  · unfold World.entryAt at oldEntered
    rw [oldPresent] at oldEntered
    exact .inl ⟨oldEntry, oldEntered, same⟩
  · exact .inr (explained place old oldPresent cacheKey entry isNew)

private theorem carries_take (working : world.IsWorking) (event : Event) :
    Carries world (event.take world) := by
  cases event with
  | lose bus => exact carries_of_continues (.of_instances (Nat.le_refl _) rfl)
  | sweep place now limit =>
      simp only [Event.take]
      split
      · exact carries_refl world
      · exact carries_of_holds
          (World.holds_perform (fun _ _ asks => asks) working (Layer.keeps_sweep now limit))
          fun _ _ _ _ _ isFlag => .inl isFlag
  | move step =>
      cases step with
      | join settings => exact carries_of_continues (world.continues_addInstance settings)
      | listen place => exact carries_of_continues (world.continues_listen place)
      | deliver place => exact carries_of_continues (.of_holds (world.holds_deliver place))
      | pass milliseconds calendar =>
          exact carries_of_continues (.of_instances (Nat.le_add_right _ _) rfl)
      | work place task =>
          simp only [Event.take, Move.take]
          split
          · exact carries_refl world
          · rename_i state present
            refine carries_of_holds (World.holds_task working present task) ?_
            rintro other old oldPresent cacheKey entry (isFlag | found)
            · exact .inl isFlag
            · obtain ⟨rfl, deadline, shows⟩ := found
              cases present.symm.trans oldPresent
              exact .inr ⟨rfl, deadline, shows⟩

/-- All copies of a run are recent. -/
theorem Run.copiesAreRecent {start : World} (run : Run start past world)
    (noInstances : start.instances = []) :
    CopiesAreRecent past world := by
  induction run with
  | start =>
      intro place state present
      rw [noInstances, List.getElem?_nil] at present
      cases present
  | next event before _ _ inductionHypothesis =>
      have working := before.reachable.isWorking (World.isWorking_of_no_instances noInstances)
      exact inductionHypothesis.carry (carries_take working event)

end Switchboard.Staleness
