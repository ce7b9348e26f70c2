import Switchboard.Proofs.Deployment.Answers
import Switchboard.Proofs.Deployment.Contents
import Switchboard.Proofs.Layer.Backing
import Switchboard.Proofs.Store.Readable

namespace Switchboard.Cluster

/-!
# One instance among others

An instance whose backends all work, as one of several over the same stores and the same
bus.  What its operations do to others is in the rows and in what it publishes: no other
cache changes, and everybody still listens where they did.
-/

/-- What of an instance its operations leave as it is. -/
structure Standing where
  service : Service
  backends : Backends
  listener : Option Nat

/-- Where an instance stands, whatever it has cached and counted. -/
def standing (state : Instance) : Standing where
  service := state.service
  backends := state.backends
  listener := state.listener

/--
Only the instance in a place did something, and it published nothing.  The rows of flags
stay readable, since each write of them took an instant of the calendar.
-/
structure Aside (place : Nat) (before after : World) : Prop where
  bus : after.bus = before.bus
  calendar : before.calendar ≤ after.calendar
  readable :
    before.calendar.HasPlainYear → after.calendar.HasPlainYear →
      before.database.flags.IsReadable before.calendar →
        after.database.flags.IsReadable after.calendar
  standings : ∀ other : Nat,
    after.instances[other]?.map standing = before.instances[other]?.map standing
  held : ∀ other, other ≠ place → ∀ cacheKey,
    after.held other cacheKey = before.held other cacheKey

namespace Aside

variable {place : Nat}

/-- A world with the same instances, the same bus and the same flags. -/
theorem of_instances {before after : World}
    (instances : after.instances = before.instances)
    (bus : after.bus = before.bus)
    (calendar : before.calendar ≤ after.calendar)
    (flags : after.database.flags = before.database.flags) :
    Aside place before after where
  bus := bus
  calendar := calendar
  readable _ _ readable := flags ▸ readable.mono calendar
  standings other := by rw [instances]
  held other _ cacheKey := by
    unfold World.held
    rw [instances]

theorem refl (world : World) : Aside place world world :=
  of_instances rfl rfl (Int.le_refl _) rfl

theorem trans {first second third : World}
    (before : Aside place first second)
    (after : Aside place second third) :
    Aside place first third where
  bus := after.bus.trans before.bus
  calendar := Int.le_trans before.calendar after.calendar
  readable firstPlain thirdPlain readable :=
    have secondPlain := firstPlain.between thirdPlain before.calendar after.calendar
    after.readable secondPlain thirdPlain (before.readable firstPlain secondPlain readable)
  standings other := (after.standings other).trans (before.standings other)
  held other different cacheKey :=
    (after.held other different cacheKey).trans (before.held other different cacheKey)

/-- An instance that changes but for its standing. -/
theorem modifyInstance (world : World) (place : Nat) {change : Instance → Instance}
    (same : ∀ state, standing (change state) = standing state) :
    Aside place world (world.modifyInstance place change) where
  bus := rfl
  calendar := Int.le_refl _
  readable _ _ readable := readable
  standings := World.map_modifyInstance same
  held other different cacheKey := by
    rw [World.held, World.modifyInstance_other different, World.held]

/-- An instance in whose place one of the same standing is put. -/
theorem putInstance {world : World} {state changed : Instance}
    (present : world.instances[place]? = some state)
    (same : standing changed = standing state) :
    Aside place world (world.putInstance place changed) := by
  refine {
    bus := rfl
    calendar := Int.le_refl _
    readable := fun _ _ readable => readable
    standings := World.map_putInstance present same
    held := ?_ }
  intro other different cacheKey
  rw [World.held, World.putInstance_other different, World.held]

end Aside

/-- The instance in a place works, with all that it depends on. -/
def IsUp (place : Nat) (world : World) : Prop :=
  ∃ state, world.instances[place]? = some state ∧ state.backends = {}

/-- What is around the instance in a place. -/
def surroundings (place : Nat) : Surroundings World where
  handle := World.handle place
  database := World.database
  calendar := World.calendar
  mayGive world cacheKey text := world.held place cacheKey = some text
  isUp := IsUp place
  frame := Aside place
  published topic event before after :=
    IsUp place after ∧ after = { before with bus := (before.bus.publish topic event).2 }

variable {place : Nat} {world : World}

/-- No request makes a backend of the instance fail. -/
theorem isUp_handle (up : IsUp place world) (request : Request) :
    IsUp place (world.handle place request).2 := by
  obtain ⟨state, present, working⟩ := up
  obtain ⟨later, laterPresent, same⟩ :=
    World.present_of_backends ((World.keepsCaches_handle world place request).backends place)
      present
  exact ⟨later, laterPresent, same.trans working⟩

/-- What a request leaves that neither fills the cache nor tells anybody. -/
private theorem leaves_of_answer
    {request : Request}
    {reply : request.Reply}
    {later : World}
    {database : Database}
    (up : IsUp place world)
    (answered : world.handle place request = (reply, later))
    (setsNothing : ∀ cacheKey text lifetime, request ≠ .call (.cacheSet cacheKey text lifetime))
    (aside : Aside place world later)
    (same : later.database = database) :
    (surroundings place).Leaves database world (world.handle place request).2 where
  isUp := isUp_handle up request
  frame := by
    rw [answered]
    exact aside
  database := by
    rw [answered]
    exact same
  entries cacheKey text kept := by
    rcases (World.keepsCaches_handle world place request).held place cacheKey text kept with
      old | ⟨_, lifetime, sets⟩
    · exact old
    · exact absurd sets (setsNothing cacheKey text lifetime)

/-- An instance of a cluster follows the laws. -/
def member (place : Nat) : Backing World where
  toSurroundings := surroundings place
  frame_refl world := .refl world
  frame_trans _ _ _ before after := before.trans after
  count world counter amount up := by
    obtain ⟨state, present, _⟩ := id up
    have counted := World.handle_count present counter amount
    exact leaves_of_answer up counted nofun (.modifyInstance world place fun _ => rfl) rfl
  readClock world up := by
    obtain ⟨state, present, _⟩ := id up
    have shown := World.handle_readClock present
    exact ⟨congrArg Prod.fst shown,
      leaves_of_answer up shown nofun (.of_instances rfl rfl world.calendar.le_next rfl) rfl⟩
  cacheGet world cacheKey up := by
    obtain ⟨state, present, working⟩ := id up
    have looked := World.handle_cacheGet present (congrArg Backends.cache working) cacheKey
    refine ⟨leaves_of_answer up looked nofun (.putInstance present rfl) rfl, ?_⟩
    intro text given
    exact World.held_of_answered given
  cacheSet world cacheKey text lifetime up := by
    obtain ⟨state, present, working⟩ := id up
    have set := congrArg Prod.snd
      (World.handle_cacheSet present (congrArg Backends.cache working) cacheKey text lifetime)
    refine {
      isUp := isUp_handle up _
      frame := ?_
      database := ?_
      entries := ?_ }
    · show Aside place world (world.handle place _).2
      rw [set]
      exact .modifyInstance world place fun _ => rfl
    · show (world.handle place _).2.database = world.database
      rw [set]
      rfl
    · intro otherKey otherText kept
      rcases (World.keepsCaches_handle world place _).held place otherKey otherText kept with
        old | ⟨_, _, sets⟩
      · exact .inl old
      · cases sets
        exact .inr ⟨rfl, rfl⟩
  cacheDelete world cacheKey up := by
    obtain ⟨state, present, working⟩ := id up
    have dropped := World.handle_cacheDelete present (congrArg Backends.cache working) cacheKey
    refine ⟨leaves_of_answer up dropped nofun (.modifyInstance world place fun _ => rfl) rfl,
      ?_, ?_⟩
    · intro _ text kept
      have gone :=
        World.held_handle_cacheDelete present (congrArg Backends.cache working) cacheKey
      cases gone.symm.trans kept
    · intro error failed
      cases (congrArg Prod.fst dropped).symm.trans failed
  publish world topic event up := by
    obtain ⟨state, present, working⟩ := id up
    have published := World.handle_publish present (congrArg Backends.bus working) topic event
    exact ⟨isUp_handle up _, congrArg Prod.snd published⟩
  published_isUp _ _ _ _ published := published.1
  readFlag world environment key up := by
    obtain ⟨state, present, working⟩ := id up
    have read := World.handle_readFlag present (congrArg Backends.flags working) environment key
    exact ⟨congrArg Prod.fst read, leaves_of_answer up read nofun (.refl world) rfl⟩
  readFlagVersion world environment key up := by
    obtain ⟨state, present, working⟩ := id up
    have read :=
      World.handle_readFlagVersion present (congrArg Backends.flags working) environment key
    exact leaves_of_answer up read nofun (.refl world) rfl
  applyFlagWrite world write expected up := by
    obtain ⟨state, present, working⟩ := id up
    have written :=
      World.handle_applyFlagWrite present (congrArg Backends.flags working) write expected
    refine ⟨congrArg Prod.fst written, leaves_of_answer up written nofun ?_ rfl⟩
    exact {
      bus := rfl
      calendar := world.calendar.le_next
      readable := fun plainYear _ readable => readable.apply plainYear write expected
      standings := fun _ => rfl
      held := fun _ _ _ => rfl }
  findOverride world scope now up := by
    obtain ⟨state, present, working⟩ := id up
    have found := World.handle_findOverride present (congrArg Backends.overrides working) scope now
    exact ⟨congrArg Prod.fst found, leaves_of_answer up found nofun (.refl world) rfl⟩
  upsertOverride world scope value expiresAt up := by
    obtain ⟨state, present, working⟩ := id up
    have written :=
      World.handle_upsertOverride present (congrArg Backends.overrides working) scope value
        expiresAt
    exact ⟨world.nextId, congrArg Prod.fst written,
      leaves_of_answer up written nofun (.of_instances rfl rfl world.calendar.le_next rfl) rfl⟩
  clearOverride world scope up := by
    obtain ⟨state, present, working⟩ := id up
    have cleared :=
      World.handle_clearOverride present (congrArg Backends.overrides working) scope
    exact ⟨congrArg Prod.fst cleared,
      leaves_of_answer up cleared nofun (.of_instances rfl rfl world.calendar.le_next rfl) rfl⟩
  listDead world now limit up := by
    obtain ⟨state, present, working⟩ := id up
    have listed :=
      World.handle_listDead present (congrArg Backends.overrides working) now limit
    exact leaves_of_answer up listed nofun (.refl world) rfl
  purge world ids now up := by
    obtain ⟨state, present, working⟩ := id up
    have purged := World.handle_purge present (congrArg Backends.overrides working) ids now
    exact leaves_of_answer up purged nofun (.of_instances rfl rfl (Int.le_refl _) rfl) rfl

end Switchboard.Cluster
