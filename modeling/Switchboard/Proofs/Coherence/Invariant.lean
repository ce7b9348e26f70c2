import Switchboard.Proofs.Coherence.Entries
import Switchboard.Proofs.Coherence.Joining

namespace Switchboard.Cluster

open Layer (Entry)

/-!
# Every stale text has its event on the way

In every world that a run reaches, what an instance holds of an entry is fresh, or an event
that will drop it waits for the instance.  Reads keep this since they add what they just
read, writes since their event reaches everybody who listens, deliveries since they drop
what they name, and whatever a cache loses was no harm.
-/

/-- An event that names a key waits for the instance in a place. -/
def Awaits (world : World) (place : Nat) (cacheKey : String) : Prop :=
  ∃ event ∈ waiting world place, event.cacheKey = cacheKey

/-- The rows are regular, who does not listen holds nothing, and every stale text is awaited. -/
structure IsCoherent (topic : String) (world : World) : Prop where
  attached : IsAttached topic world
  flags : world.database.flags.IsReadable world.calendar
  overrides : world.database.overrides.IsRegular
  unread : ∀ place, listener? world place = none → ∀ cacheKey, world.held place cacheKey = none
  covered : ∀ place (entry : Entry), entry.IsApart world.database →
    entry.IsFresh world.database (world.held place entry.cacheKey) ∨
      Awaits world place entry.cacheKey

private theorem none_of_losing {before? after? : Option String}
    (nothing : before? = none)
    (losing : ∀ text, after? = some text → before? = some text) :
    after? = none := by
  cases kept : after? with
  | none => rfl
  | some text => exact absurd (nothing.symm.trans (losing text kept)) nofun

namespace IsCoherent

variable {topic : String} {world before after : World} {place : Nat}

/-- Without instances there is nothing to be stale. -/
theorem of_no_instances
    (noInstances : world.instances = [])
    (flags : world.database.flags.IsReadable world.calendar)
    (overrides : world.database.overrides.IsRegular) :
    IsCoherent topic world := by
  have absent (place : Nat) : world.instances[place]? = none := by
    rw [noInstances]
    rfl
  have deaf (place : Nat) : listener? world place = none := by
    unfold listener?
    rw [absent]
    rfl
  have nothing (place : Nat) (cacheKey : String) : world.held place cacheKey = none := by
    unfold World.held
    rw [absent]
    rfl
  refine {
    attached := ?_
    flags := flags
    overrides := overrides
    unread := fun place _ cacheKey => nothing place cacheKey
    covered := ?_ }
  · refine { working := ?_, speaks := ?_, hears := ?_, apart := ?_ }
    · intro place state present
      rw [absent] at present
      cases present
    · intro place state present
      rw [absent] at present
      cases present
    · intro place index listens
      rw [deaf] at listens
      cases listens
    · intro first second index listens
      rw [deaf] at listens
      cases listens
  · intro place entry _
    rw [nothing]
    exact .inl (entry.isFresh_none _)

/-- An instance that joins or begins to listen has nothing cached. -/
theorem welcome (coherent : IsCoherent topic before)
    (admits : Admits place before after)
    (attached : IsAttached topic after) :
    IsCoherent topic after where
  attached := attached
  flags := by
    rw [admits.database, admits.calendar]
    exact coherent.flags
  overrides := by
    rw [admits.database]
    exact coherent.overrides
  unread other deaf cacheKey := by
    rw [admits.held]
    by_cases isHere : other = place
    · exact isHere ▸ coherent.unread place admits.deaf cacheKey
    · exact coherent.unread other ((admits.listeners other isHere).symm.trans deaf) cacheKey
  covered other entry apart := by
    rw [admits.database] at apart
    rw [admits.held, admits.database]
    by_cases isHere : other = place
    · rw [isHere, coherent.unread place admits.deaf]
      exact .inl (entry.isFresh_none _)
    · unfold Awaits
      rw [admits.waiting other isHere]
      exact coherent.covered other entry apart

/-- A delivery drops what it names; all else stays fresh or awaited. -/
theorem deliver {event : Invalidation} (coherent : IsCoherent topic before)
    (delivers : Delivers place event before after)
    (attached : IsAttached topic after) :
    IsCoherent topic after where
  attached := attached
  flags := by
    rw [delivers.database, delivers.calendar]
    exact coherent.flags
  overrides := by
    rw [delivers.database]
    exact coherent.overrides
  unread other deaf cacheKey := by
    have wasDeaf := (listener_of_standings delivers.standings other).symm.trans deaf
    exact none_of_losing (coherent.unread other wasDeaf cacheKey)
      (delivers.losing other cacheKey)
  covered other entry apart := by
    rw [delivers.database] at apart
    have staysFresh (fresh : entry.IsFresh before.database (before.held other entry.cacheKey)) :
        entry.IsFresh after.database (after.held other entry.cacheKey) := by
      rw [delivers.database]
      exact fresh.mono (entry.sameRow_refl _) (delivers.losing other entry.cacheKey)
    rcases coherent.covered other entry apart with fresh | ⟨awaited, waits, keyed⟩
    · exact .inl (staysFresh fresh)
    · by_cases isHere : other = place
      · subst isHere
        rw [delivers.first] at waits
        rcases List.mem_cons.mp waits with rfl | later
        · rw [← keyed, delivers.dropped]
          exact .inl (entry.isFresh_none _)
        · exact .inr ⟨awaited, later, keyed⟩
      · rw [← delivers.others other isHere] at waits
        exact .inr ⟨awaited, waits, keyed⟩

/-- Clocks that run on change nothing that is read. -/
theorem pass (coherent : IsCoherent topic world) (clock : Nat) {calendar : Instant}
    (ordered : world.calendar ≤ calendar) :
    IsCoherent topic { world with clock, calendar } where
  attached := {
    working := coherent.attached.working
    speaks := coherent.attached.speaks
    hears := coherent.attached.hears
    apart := coherent.attached.apart }
  flags := coherent.flags.mono ordered
  overrides := coherent.overrides
  unread := coherent.unread
  covered := coherent.covered

/-- An instance that publishes nothing may lose what it holds, and add what is fresh. -/
private theorem aside (coherent : IsCoherent topic before)
    (aside : Aside place before after)
    (database : after.database = before.database)
    (unread : listener? before place = none → ∀ cacheKey, after.held place cacheKey = none)
    (own : ∀ entry : Entry, entry.IsApart before.database →
      entry.IsFresh before.database (before.held place entry.cacheKey) →
        entry.IsFresh after.database (after.held place entry.cacheKey)) :
    IsCoherent topic after where
  attached := coherent.attached.of_standings aside.standings fun _ hears => aside.bus ▸ hears
  flags := by
    rw [database]
    exact coherent.flags.mono aside.calendar
  overrides := by
    rw [database]
    exact coherent.overrides
  unread other deaf cacheKey := by
    have wasDeaf := (listener_of_standings aside.standings other).symm.trans deaf
    by_cases isHere : other = place
    · exact isHere ▸ unread (isHere ▸ wasDeaf) cacheKey
    · rw [aside.held other isHere]
      exact coherent.unread other wasDeaf cacheKey
  covered other entry apart := by
    rw [database] at apart
    have same : waiting after other = waiting before other :=
      waiting_congr (listener_of_standings aside.standings other) (congrArg Bus.receivers aside.bus)
    unfold Awaits
    rw [same]
    rcases coherent.covered other entry apart with fresh | awaits
    · refine .inl ?_
      by_cases isHere : other = place
      · subst isHere
        exact own entry apart fresh
      · rw [aside.held other isHere, database]
        exact fresh
    · exact .inr awaits

/-- What an instance loses is no harm. -/
theorem lose (coherent : IsCoherent topic before)
    (quiet : (member place).Quiet before after) :
    IsCoherent topic after := by
  refine coherent.aside quiet.frame quiet.database ?_ ?_
  · intro deaf cacheKey
    exact none_of_losing (coherent.unread place deaf cacheKey) (quiet.entries cacheKey)
  · intro entry _ fresh
    have database : after.database = before.database := quiet.database
    rw [database]
    exact fresh.mono (entry.sameRow_refl _) (quiet.entries entry.cacheKey)

/-- An instance that listens may add what it just read. -/
theorem read (coherent : IsCoherent topic before)
    (aside : Aside place before after)
    (database : after.database = before.database)
    (listens : (listener? before place).isSome)
    (own : ∀ entry : Entry, entry.IsApart before.database →
      entry.IsFresh before.database (before.held place entry.cacheKey) →
        entry.IsFresh after.database (after.held place entry.cacheKey)) :
    IsCoherent topic after := by
  refine coherent.aside aside database ?_ own
  intro deaf
  rw [deaf] at listens
  cases listens

end IsCoherent

/-- The rows changed, an event was published, and otherwise caches only lost texts. -/
structure Announces (topic : String) (event : Invalidation) (database : Database)
    (before after : World) : Prop where
  database : after.database = database
  bus : after.bus = (before.bus.publish topic event).2
  readable :
    before.calendar.HasPlainYear → after.calendar.HasPlainYear →
      before.database.flags.IsReadable before.calendar →
        after.database.flags.IsReadable after.calendar
  standings : ∀ other : Nat,
    after.instances[other]?.map standing = before.instances[other]?.map standing
  losing : ∀ other cacheKey text,
    after.held other cacheKey = some text → before.held other cacheKey = some text

private theorem losing_of_leaves {place : Nat} {database : Database} {before after : World}
    (leaves : (member place).Leaves database before after) (other : Nat) (cacheKey text : String)
    (kept : after.held other cacheKey = some text) :
    before.held other cacheKey = some text := by
  by_cases isHere : other = place
  · subst isHere
    exact leaves.entries cacheKey text kept
  · exact (leaves.frame.held other isHere cacheKey).symm.trans kept

/-- A write that is invalidated is announced. -/
theorem announces_of_invalidates {place : Nat} {topic : String} {event : Invalidation}
    {database : Database} {before after : World} {outcome : Except ServiceError α}
    (invalidates :
      (member place).Invalidates topic event database before after outcome) :
    Announces topic event database before after := by
  obtain ⟨erased, told, leaves, ⟨_, isTold⟩, quiet, _⟩ := invalidates
  have written : Aside place before erased := leaves.frame
  have ended : Aside place told after := quiet.frame
  have losing := losing_of_leaves quiet
  have database : after.database = told.database := quiet.database
  subst isTold
  exact {
    database := database.trans leaves.database
    bus := ended.bus.trans (by rw [written.bus])
    readable := fun plainYear laterPlain readable =>
      have between := plainYear.between laterPlain written.calendar ended.calendar
      ended.readable between laterPlain (written.readable plainYear between readable)
    standings := fun other => (ended.standings other).trans (written.standings other)
    losing := fun other cacheKey text kept =>
      losing_of_leaves leaves other cacheKey text (losing other cacheKey text kept) }

namespace IsCoherent

variable {topic : String} {before after : World}

/-- The event of a write reaches everybody who may hold what it made stale. -/
theorem announce {event : Invalidation} {database : Database}
    (coherent : IsCoherent topic before)
    (announces : Announces topic event database before after)
    (keepsUp : after.bus.KeepsUp)
    (plainYear : before.calendar.HasPlainYear)
    (laterPlain : after.calendar.HasPlainYear)
    (overrides : database.overrides.IsRegular)
    (rows : ∀ allowed,
      database.overrides.HasOnly allowed → before.database.overrides.HasOnly allowed)
    (same : ∀ entry : Entry, entry.cacheKey ≠ event.cacheKey →
      entry.SameRow before.database database) :
    IsCoherent topic after where
  attached := by
    refine coherent.attached.of_standings announces.standings ?_
    intro index hears
    have bus := announces.bus
    rw [bus] at keepsUp ⊢
    exact hears_publish keepsUp hears
  flags := announces.readable plainYear laterPlain coherent.flags
  overrides := by
    rw [announces.database]
    exact overrides
  unread other deaf cacheKey := by
    have wasDeaf := (listener_of_standings announces.standings other).symm.trans deaf
    exact none_of_losing (coherent.unread other wasDeaf cacheKey)
      (announces.losing other cacheKey)
  covered other entry apart := by
    rw [announces.database] at apart
    have listener := listener_of_standings announces.standings other
    cases listens : listener? before other with
    | none =>
        have nothing := coherent.unread other listens entry.cacheKey
        rw [none_of_losing nothing (announces.losing other entry.cacheKey)]
        exact .inl (entry.isFresh_none _)
    | some index =>
        have waits := waiting_publish coherent.attached announces.bus keepsUp listener listens
        unfold Awaits
        rw [waits]
        by_cases isWritten : entry.cacheKey = event.cacheKey
        · exact .inr ⟨event, List.mem_append_right _ List.mem_cons_self, isWritten.symm⟩
        · rcases coherent.covered other entry (apart.of_hasOnly rows) with
            fresh | ⟨awaited, earlier, keyed⟩
          · refine .inl ?_
            rw [announces.database]
            exact fresh.mono (same entry isWritten) (announces.losing other entry.cacheKey)
          · exact .inr ⟨awaited, List.mem_append_left _ earlier, keyed⟩

end IsCoherent

end Switchboard.Cluster
