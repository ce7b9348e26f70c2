import Switchboard.Proofs.Layer.Freshness
import Switchboard.Proofs.Layer.Reads
import Switchboard.Proofs.Layer.Tasks
import Switchboard.Proofs.Layer.Writes
import Switchboard.Proofs.Transparency.FaultyCache

namespace Switchboard.Site

open Backing Surroundings
open Layer (Entry Task)

/-!
# A faulty cache cannot be told from none

Any tasks and sweeps of one instance, one after the other, over working stores and a faulty
cache.  Unless a write of an entry ended with an error that left its caller in doubt,
reads of the entry give exactly what the store has.  Expiries do not break this: the
cached path compares instants and the store compares texts, and both say the same.
-/

/-- A task or a sweep of an instance, or the passing of time. -/
inductive Move where
  | work (task : Task)
  | sweep (now : Instant) (limit : Nat)
  | pass (calendar : Instant)
  deriving DecidableEq, Repr

/-- How an operation failed, if it did. -/
def failure? : Except ServiceError α → Option ServiceError
  | .ok _ => none
  | .error error => some error

/-- What is told of an operation that ended. -/
def told (ended : Except ServiceError α × Site) : Option ServiceError × Site :=
  (failure? ended.1, ended.2)

namespace Move

/-- The entry that a move writes. -/
def written? : Move → Option Entry
  | work task => if task.isRead then none else some task.entry
  | _ => none

/-- The scope that a move gives a value. -/
def upserted? : Move → Option Scope
  | work (.upsertOverride scope _ _) => some scope
  | _ => none

/-- What callers see to: the expiries that they write, and the instants that they sweep at. -/
def IsRegular : Move → Prop
  | work task => task.IsRegular
  | sweep now _ => now.IsStorable
  | pass _ => True

/-- Run a move to its end: how it failed, if it did, and the site behind it. -/
def perform (faults : CacheFaults) (place : Nat) (layer : Layer) (move : Move) (site : Site) :
    Option ServiceError × Site :=
  match move with
  | work task => told (Operation.perform (handle faults place) (task.operation layer) site)
  | sweep now limit => told (Operation.perform (handle faults place) (Layer.sweep now limit) site)
  | pass calendar => (none, { site with world := { site.world with calendar } })

end Move

/-- The moves that were made, each with how it failed. -/
abbrev History := List (Move × Option ServiceError)

/-- Make moves one after the other. -/
def run (faults : CacheFaults) (place : Nat) (layer : Layer) : List Move → Site → History × Site
  | [], site => ([], site)
  | move :: rest, site =>
      let (failure, later) := move.perform faults place layer site
      let (history, last) := run faults place layer rest later
      ((move, failure) :: history, last)

/-- An operation ended so that its caller knows what is stored. -/
def Settles (failure : Option ServiceError) : Prop :=
  ∀ error, failure = some error → error.isConflict = true

/-- No write of an entry failed otherwise than by meeting another version. -/
def History.IsSettled (history : History) (entry : Entry) : Prop :=
  ∀ move failure, (move, failure) ∈ history → move.written? = some entry → Settles failure

/-- Where nothing failed, nothing is in doubt. -/
private theorem History.isSettled_of_succeeded {history : History}
    (succeeded : ∀ ended ∈ history, ended.2 = none)
    (entry : Entry) :
    history.IsSettled entry := by
  intro move failure member _ error failed
  have succeeds : failure = none := succeeded _ member
  rw [succeeds] at failed
  cases failed

/-- All that one move may do to a site, by the move and its failure. -/
inductive Effect (faults : CacheFaults) (place : Nat) (before : Site) :
    Move → Option ServiceError → Site → Prop where
  | kept {move failure after} :
      (backing faults place).Quiet before after →
      Effect faults place before move failure after
  | readFlag {move failure after flag} {environment key : String} :
      before.world.database.flags.read environment key = .ok (some flag) →
      (backing faults place).Fills (flagCacheKey environment key) (Wire.encode flag)
        before after →
      Effect faults place before move failure after
  | readOverride {move failure after value} {scope : Scope} {now : Instant} :
      before.world.database.overrides.find scope now = .ok (some value) →
      (backing faults place).Fills (overrideCacheKey scope) (Wire.encode value) before after →
      Effect faults place before move failure after
  | wroteFlag {write expected failure after} :
      (backing faults place).Leaves
        { before.world.database with
          flags := (before.world.database.flags.apply write expected before.world.calendar).2 }
        before after →
      (Settles failure →
        (backing faults place).Dropped after (flagCacheKey write.environment write.key)) →
      Effect faults place before (.work (.writeFlag write expected)) failure after
  | wroteOverride {scope value expiresAt failure after} (id : OverrideId) :
      (backing faults place).Leaves
        { before.world.database with
          overrides :=
            (before.world.database.overrides.upsert id scope value expiresAt
              before.world.calendar).2 }
        before after →
      (Settles failure → (backing faults place).Dropped after (overrideCacheKey scope)) →
      Effect faults place before (.work (.upsertOverride scope value expiresAt)) failure after
  | clearedOverride {scope failure after} :
      (backing faults place).Leaves
        { before.world.database with
          overrides := before.world.database.overrides.softDelete scope before.world.calendar }
        before after →
      (Settles failure → (backing faults place).Dropped after (overrideCacheKey scope)) →
      Effect faults place before (.work (.clearOverride scope)) failure after
  | swept {now limit failure after} (ids : List OverrideId) :
      (backing faults place).Leaves
        { before.world.database with
          overrides := (before.world.database.overrides.purge now ids).2 }
        before after →
      Effect faults place before (.sweep now limit) failure after

variable {faults : CacheFaults} {place : Nat} {layer : Layer} {site : Site}

/-- What an invalidation leaves behind where publishing changes nothing that is read. -/
private theorem leaves_of_invalidates
    {topic : String}
    {event : Invalidation}
    {database : Database}
    {later : Site}
    {outcome : Except ServiceError α}
    (invalidates :
      (backing faults place).Invalidates topic event database site later outcome) :
    (backing faults place).Leaves database site later ∧
      (IsSettled outcome → (backing faults place).Dropped later event.cacheKey) := by
  obtain ⟨erased, told, leaves, ⟨_, sameDatabase, sameContents⟩, quiet, dropped⟩ := invalidates
  have entries : ∀ cacheKey text, later.MayGive cacheKey text → erased.MayGive cacheKey text := by
    intro cacheKey text given
    rcases quiet.entries cacheKey text given with held | unreadable
    · exact .inl (sameContents ▸ held)
    · exact .inr unreadable
  refine ⟨⟨quiet.isUp, trivial, ?_, ?_⟩, ?_⟩
  · exact quiet.database.trans (sameDatabase.trans leaves.database)
  · intro cacheKey text given
    exact leaves.entries cacheKey text (entries cacheKey text given)
  · intro settled text given
    exact dropped settled text (entries _ text given)

private theorem isSettled_of_failure {outcome : Except ServiceError α}
    (settles : Settles (failure? outcome)) :
    IsSettled outcome := by
  intro error failed
  exact settles error (by rw [failed]; rfl)

/-- A read of a flag keeps what is cached, or adds what it found. -/
private theorem effect_of_getFlag {move : Move} {failure : Option ServiceError} {later : Site}
    {environment key : String}
    (leaves :
      (backing faults place).Quiet site later ∨
        ∃ flag, site.world.database.flags.read environment key = .ok (some flag) ∧
          (backing faults place).Fills (flagCacheKey environment key) (Wire.encode flag)
            site later) :
    Effect faults place site move failure later := by
  rcases leaves with quiet | ⟨flag, read, fills⟩
  · exact .kept quiet
  · exact .readFlag read fills

/-- A read of an override keeps what is cached, or adds what it found. -/
private theorem effect_of_getOverride {move : Move} {failure : Option ServiceError}
    {later : Site} {scope : Scope} {now : Instant}
    (leaves :
      (backing faults place).Quiet site later ∨
        ∃ value, site.world.database.overrides.find scope now = .ok (some value) ∧
          (backing faults place).Fills (overrideCacheKey scope) (Wire.encode value)
            site later) :
    Effect faults place site move failure later := by
  rcases leaves with quiet | ⟨value, found, fills⟩
  · exact .kept quiet
  · exact .readOverride found fills

/-- Every task does one of these things. -/
private theorem effect_work (faults : CacheFaults) (layer : Layer) (up : site.IsUp place)
    (task : Task) :
    Effect faults place site (.work task) ((Move.work task).perform faults place layer site).1
      ((Move.work task).perform faults place layer site).2 := by
  cases task with
  | getFlag environment key =>
      obtain ⟨outcome, later, performs, _, leaves⟩ :=
        (backing faults place).getFlag_spec layer environment key up
      have ended : (Move.work (.getFlag environment key)).perform faults place layer site =
          (failure? outcome, later) :=
        congrArg told performs
      rw [ended]
      exact effect_of_getFlag leaves
  | getOverride scope =>
      obtain ⟨outcome, later, performs, _, leaves⟩ :=
        (backing faults place).getOverride_spec layer scope up
      have ended : (Move.work (.getOverride scope)).perform faults place layer site =
          (failure? outcome, later) :=
        congrArg told performs
      rw [ended]
      exact effect_of_getOverride leaves
  | getOverrideAt scope now =>
      obtain ⟨outcome, later, performs, _, leaves⟩ :=
        (backing faults place).getOverrideAt_spec layer scope now up
      have ended : (Move.work (.getOverrideAt scope now)).perform faults place layer site =
          (failure? outcome, later) :=
        congrArg told performs
      rw [ended]
      exact effect_of_getOverride leaves
  | writeFlag write expected =>
      obtain ⟨outcome, later, performs, cases⟩ :=
        (backing faults place).writeFlag_spec layer write expected up
      have ended : (Move.work (.writeFlag write expected)).perform faults place layer site =
          (failure? outcome, later) :=
        congrArg told performs
      rw [ended]
      rcases cases with ⟨_, _, quiet⟩ | ⟨row, _, ⟨error, _, unsettled, leaves⟩ | announced⟩
      · exact .kept quiet
      · exact .wroteFlag leaves fun settles => absurd (isSettled_of_failure settles) unsettled
      · obtain ⟨flag, event, _, keyed, invalidates⟩ := announced
        obtain ⟨leaves, dropped⟩ := leaves_of_invalidates invalidates
        rw [keyed] at dropped
        exact .wroteFlag leaves fun settles => dropped (isSettled_of_failure settles)
  | upsertOverride scope value expiresAt =>
      obtain ⟨id, outcome, later, performs, cases⟩ :=
        (backing faults place).upsertOverride_spec layer scope value expiresAt up
      have ended :
          (Move.work (.upsertOverride scope value expiresAt)).perform faults place layer site =
            (failure? outcome, later) :=
        congrArg told performs
      rw [ended]
      rcases cases with ⟨error, _, unsettled, leaves⟩ | ⟨event, keyed, invalidates⟩
      · exact .wroteOverride id leaves fun settles =>
          absurd (isSettled_of_failure settles) unsettled
      · obtain ⟨leaves, dropped⟩ := leaves_of_invalidates invalidates
        rw [keyed] at dropped
        exact .wroteOverride id leaves fun settles => dropped (isSettled_of_failure settles)
  | clearOverride scope =>
      obtain ⟨outcome, later, event, performs, keyed, invalidates⟩ :=
        (backing faults place).clearOverride_spec layer scope up
      have ended : (Move.work (.clearOverride scope)).perform faults place layer site =
          (failure? outcome, later) :=
        congrArg told performs
      rw [ended]
      obtain ⟨leaves, dropped⟩ := leaves_of_invalidates invalidates
      rw [keyed] at dropped
      exact .clearedOverride leaves fun settles => dropped (isSettled_of_failure settles)

/-- Every move does one of these things. -/
theorem effect_perform (faults : CacheFaults) (layer : Layer) (up : site.IsUp place) (move : Move) :
    Effect faults place site move (move.perform faults place layer site).1
      (move.perform faults place layer site).2 := by
  cases move with
  | work task => exact effect_work faults layer up task
  | sweep now limit =>
      obtain ⟨outcome, later, ids, performs, leaves⟩ :=
        (backing faults place).sweep_spec now limit up
      have ended : (Move.sweep now limit).perform faults place layer site =
          (failure? outcome, later) :=
        congrArg told performs
      rw [ended]
      exact .swept ids leaves
  | pass calendar =>
      exact .kept ⟨up, trivial, rfl, fun _ _ given => given⟩

namespace Effect

variable {move : Move} {failure : Option ServiceError} {later : Site}

/-- The stores stay up. -/
theorem isUp (effect : Effect faults place site move failure later) : later.IsUp place := by
  cases effect with
  | kept quiet => exact quiet.isUp
  | readFlag _ fills => exact fills.isUp
  | readOverride _ fills => exact fills.isUp
  | wroteFlag leaves _ => exact leaves.isUp
  | wroteOverride _ leaves _ => exact leaves.isUp
  | clearedOverride leaves _ => exact leaves.isUp
  | swept _ leaves => exact leaves.isUp

/-- A flag stays fresh unless a write of it leaves doubt. -/
theorem flagIsFresh {environment key : String}
    (effect : Effect faults place site move failure later)
    (valid : ValidNames environment key)
    (settled : move.written? = some (.flag environment key) → Settles failure)
    (fresh : (backing faults place).FlagIsFresh site environment key) :
    (backing faults place).FlagIsFresh later environment key := by
  cases effect with
  | kept quiet => exact flagIsFresh_of_leaves quiet rfl fresh
  | readFlag read fills => exact flagIsFresh_of_getFlag valid (.inr ⟨_, read, fills⟩) fresh
  | readOverride found fills => exact flagIsFresh_of_getOverride (.inr ⟨_, found, fills⟩) fresh
  | @wroteFlag write _ _ _ leaves dropped =>
      by_cases here : write.environment = environment ∧ write.key = key
      · obtain ⟨rfl, rfl⟩ := here
        exact flagIsFresh_of_dropped (dropped (settled rfl))
      · exact flagIsFresh_of_leaves leaves (FlagTable.read_apply_other here) fresh
  | wroteOverride _ leaves _ => exact flagIsFresh_of_leaves leaves rfl fresh
  | clearedOverride leaves _ => exact flagIsFresh_of_leaves leaves rfl fresh
  | swept _ leaves => exact flagIsFresh_of_leaves leaves rfl fresh

/-- The rows of overrides stay sound. -/
theorem isSound
    (effect : Effect faults place site move failure later)
    (regular : move.IsRegular)
    (sound : site.world.database.overrides.IsSound) :
    later.world.database.overrides.IsSound := by
  have kept {database : Database} (same : later.world.database = database)
      (held : database.overrides.IsSound) : later.world.database.overrides.IsSound :=
    same ▸ held
  cases effect with
  | kept quiet => exact kept quiet.database sound
  | readFlag _ fills => exact kept fills.database sound
  | readOverride _ fills => exact kept fills.database sound
  | wroteFlag leaves _ => exact kept leaves.database sound
  | @wroteOverride scope value _ _ _ id leaves _ =>
      exact kept leaves.database (sound.upsert id scope value _ regular)
  | @clearedOverride scope _ _ leaves _ => exact kept leaves.database (sound.softDelete scope _)
  | swept ids leaves => exact kept leaves.database (sound.purge _ ids)

/-- No scope has a row but those that had one and those that are given a value. -/
theorem hasOnly {allowed : Scope → Prop}
    (effect : Effect faults place site move failure later)
    (isAllowed : ∀ scope ∈ move.upserted?, allowed scope)
    (only : site.world.database.overrides.HasOnly allowed) :
    later.world.database.overrides.HasOnly allowed := by
  have kept {database : Database} (same : later.world.database = database)
      (held : database.overrides.HasOnly allowed) :
      later.world.database.overrides.HasOnly allowed :=
    same ▸ held
  cases effect with
  | kept quiet => exact kept quiet.database only
  | readFlag _ fills => exact kept fills.database only
  | readOverride _ fills => exact kept fills.database only
  | wroteFlag leaves _ => exact kept leaves.database only
  | wroteOverride id leaves _ =>
      exact kept leaves.database
        (OverrideTable.hasOnly_upsert_iff.mpr ⟨only, isAllowed _ rfl⟩)
  | clearedOverride leaves _ =>
      exact kept leaves.database (OverrideTable.hasOnly_softDelete_iff.mpr only)
  | swept ids leaves => exact kept leaves.database (only.purge _ ids)

/--
A scope that the cache tells from those with a row stays fresh for an instant, unless a
write of it leaves doubt or a sweep is ahead of the instant.
-/
theorem overrideIsFresh {scope : Scope} {now : Instant}
    (effect : Effect faults place site move failure later)
    (regular : move.IsRegular)
    (sound : site.world.database.overrides.IsSound)
    (apart : site.world.database.overrides.HasOnly scope.IsToldFrom)
    (storable : now.IsStorable)
    (notAhead : ∀ sweptAt limit, move = .sweep sweptAt limit → sweptAt ≤ now)
    (settled : move.written? = some (.override scope) → Settles failure)
    (fresh : (backing faults place).OverrideIsFresh site scope now) :
    (backing faults place).OverrideIsFresh later scope now := by
  cases effect with
  | kept quiet => exact overrideIsFresh_of_leaves quiet rfl fresh
  | readFlag read fills => exact overrideIsFresh_of_getFlag (.inr ⟨_, read, fills⟩) fresh
  | readOverride found fills =>
      exact overrideIsFresh_of_getOverride (.inr ⟨_, found, fills⟩) sound apart storable fresh
  | wroteFlag leaves _ => exact overrideIsFresh_of_leaves leaves rfl fresh
  | @wroteOverride written value expiresAt _ _ id leaves dropped =>
      by_cases here : scope = written
      · subst here
        exact overrideIsFresh_of_dropped (dropped (settled rfl))
      · exact overrideIsFresh_of_leaves leaves
          (OverrideTable.find_upsert_other id value expiresAt _ now here) fresh
  | @clearedOverride written _ _ leaves dropped =>
      by_cases here : scope = written
      · subst here
        exact overrideIsFresh_of_dropped (dropped (settled rfl))
      · exact overrideIsFresh_of_leaves leaves
          (OverrideTable.find_softDelete_other _ now here) fresh
  | @swept sweptAt limit _ _ ids leaves =>
      exact overrideIsFresh_of_leaves leaves
        (OverrideTable.find_purge ids regular storable (notAhead sweptAt limit rfl)) fresh

end Effect

private theorem flagIsFresh_run {environment key : String}
    (valid : ValidNames environment key)
    (moves : List Move)
    (up : site.IsUp place)
    (fresh : (backing faults place).FlagIsFresh site environment key)
    (settled : (run faults place layer moves site).1.IsSettled (.flag environment key)) :
    (run faults place layer moves site).2.IsUp place ∧
      (backing faults place).FlagIsFresh (run faults place layer moves site).2 environment key := by
  induction moves generalizing site with
  | nil => exact ⟨up, fresh⟩
  | cons move rest inductionHypothesis =>
      have effect := effect_perform faults layer up move
      have here := settled move _ List.mem_cons_self
      exact inductionHypothesis effect.isUp (effect.flagIsFresh valid here fresh)
        fun later failure member => settled later failure (List.mem_cons_of_mem _ member)

private theorem overrideIsFresh_run {scope : Scope} {now : Instant}
    (storable : now.IsStorable)
    (moves : List Move)
    (regular : ∀ move ∈ moves, move.IsRegular)
    (told : ∀ move ∈ moves, ∀ other ∈ move.upserted?, scope.IsToldFrom other)
    (notAhead : ∀ sweptAt limit, .sweep sweptAt limit ∈ moves → sweptAt ≤ now)
    (up : site.IsUp place)
    (sound : site.world.database.overrides.IsSound)
    (apart : site.world.database.overrides.HasOnly scope.IsToldFrom)
    (fresh : (backing faults place).OverrideIsFresh site scope now)
    (settled : (run faults place layer moves site).1.IsSettled (.override scope)) :
    (run faults place layer moves site).2.IsUp place ∧
      (backing faults place).OverrideIsFresh (run faults place layer moves site).2 scope now := by
  induction moves generalizing site with
  | nil => exact ⟨up, fresh⟩
  | cons move rest inductionHypothesis =>
      have effect := effect_perform faults layer up move
      have isRegular := regular move List.mem_cons_self
      have isTold := told move List.mem_cons_self
      have here := settled move _ List.mem_cons_self
      refine inductionHypothesis ?_ ?_ ?_ effect.isUp (effect.isSound isRegular sound)
        (effect.hasOnly isTold apart) ?_ ?_
      · intro later member
        exact regular later (List.mem_cons_of_mem move member)
      · intro later member
        exact told later (List.mem_cons_of_mem move member)
      · intro sweptAt limit member
        exact notAhead sweptAt limit (List.mem_cons_of_mem move member)
      · refine effect.overrideIsFresh isRegular sound apart storable ?_ here fresh
        intro sweptAt limit isSweep
        exact notAhead sweptAt limit (isSweep ▸ List.mem_cons_self)
      · intro later failure member
        exact settled later failure (List.mem_cons_of_mem _ member)

/--
After any run of moves over an empty faulty cache, reads through the cache give what the
stores have, errors included: of every flag with valid names whose writes were settled, and
of every such scope that the cache tells from all that were given a value, at every instant
that no sweep was ahead of and that is written as it is.
-/
theorem reads_eq_store_reads
    (faults : CacheFaults)
    (place : Nat)
    (layer : Layer)
    {start : Site}
    (up : start.IsUp place)
    (empty : ∀ cacheKey, start.contents cacheKey = none)
    (sound : start.world.database.overrides.IsSound)
    {moves : List Move}
    (regular : ∀ move ∈ moves, move.IsRegular) :
    let (history, ended) := run faults place layer moves start
    (∀ environment key, ValidNames environment key →
      history.IsSettled (.flag environment key) →
        (Operation.perform (handle faults place) (layer.getFlag environment key) ended).1 =
          ended.world.database.flags.read environment key) ∧
    ∀ scope now, start.world.database.overrides.HasOnly scope.IsToldFrom →
      (∀ move ∈ moves, ∀ other ∈ move.upserted?, scope.IsToldFrom other) →
      history.IsSettled (.override scope) →
      now.IsStorable → (∀ sweptAt limit, .sweep sweptAt limit ∈ moves → sweptAt ≤ now) →
        (Operation.perform (handle faults place) (layer.getOverrideAt scope now) ended).1 =
          ended.world.database.overrides.find scope now := by
  have nothing : ∀ cacheKey, (backing faults place).Dropped start cacheKey := by
    intro cacheKey text given
    rcases given with held | unreadable
    · rw [empty] at held
      cases held
    · exact unreadable
  refine ⟨?_, ?_⟩
  · intro environment key valid settled
    obtain ⟨stillUp, fresh⟩ :=
      flagIsFresh_run valid moves up (flagIsFresh_of_dropped (nothing _)) settled
    obtain ⟨found, later, performs, gives, _⟩ :=
      (backing faults place).getFlag_spec layer environment key stillUp
    exact (congrArg Prod.fst performs).trans (gives fresh)
  · intro scope now apart told settled storable notAhead
    obtain ⟨stillUp, fresh⟩ :=
      overrideIsFresh_run storable moves regular told notAhead up sound apart
        (overrideIsFresh_of_dropped (nothing _)) settled
    obtain ⟨found, later, performs, gives, _⟩ :=
      (backing faults place).getOverrideAt_spec layer scope now stillUp
    exact (congrArg Prod.fst performs).trans (gives fresh)

namespace Troubled

/-- The expiry of what is written while most calls of the cache go wrong. -/
def tomorrow : Instant :=
  .startOf ⟨2024, 5, 2, by decide⟩

/-- The scope that the run writes and reads. -/
def scope : Scope :=
  ⟨"prod", "beta.search", .user, "u1"⟩

/-- One instance without rows. -/
def start : Site where
  world := World.addInstance { calendar := .mayDay } {}

/-- The scope is written and read. -/
def moves : List Move :=
  [.work (.upsertOverride scope true (some tomorrow)), .work (.getOverrideAt scope .mayDay)]

private theorem regular : ∀ move ∈ moves, move.IsRegular := by
  simp only [moves, List.forall_mem_cons]
  refine ⟨?_, trivial, by simp⟩
  rintro expiry ⟨⟩
  decide

private theorem told : ∀ move ∈ moves, ∀ other ∈ move.upserted?, scope.IsToldFrom other := by
  simp only [moves, List.forall_mem_cons]
  refine ⟨?_, nofun, by simp⟩
  rintro other ⟨⟩
  exact fun _ => rfl

private theorem settled : (run .troubled 0 {} moves start).1.IsSettled (.override scope) :=
  History.isSettled_of_succeeded (by decide) _

end Troubled

/-- The hypotheses hold of a run in which most calls of the cache go wrong. -/
theorem reads_eq_store_reads_troubled :
    Troubled.start.IsUp 0 ∧ (∀ move ∈ Troubled.moves, move.IsRegular) ∧
      (run .troubled 0 {} Troubled.moves Troubled.start).1.IsSettled
        (.override Troubled.scope) ∧
      (Operation.perform (handle .troubled 0)
          (Layer.getOverrideAt {} Troubled.scope .mayDay)
          (run .troubled 0 {} Troubled.moves Troubled.start).2).1 =
        .ok (some ⟨true, some Troubled.tomorrow⟩) := by
  have up : Troubled.start.IsUp 0 := ⟨_, rfl, rfl, rfl⟩
  have noSweep : ∀ sweptAt limit, .sweep sweptAt limit ∈ Troubled.moves →
      sweptAt ≤ .mayDay := by
    intro sweptAt limit member
    simp [Troubled.moves] at member
  have reads := (reads_eq_store_reads .troubled 0 {} up (fun _ => rfl)
    OverrideTable.isSound_empty Troubled.regular).2 Troubled.scope .mayDay
      OverrideTable.hasOnly_empty Troubled.told Troubled.settled (by decide) noSweep
  have stored :
      (run .troubled 0 {} Troubled.moves Troubled.start).2.world.database.overrides.find
          Troubled.scope .mayDay =
        .ok (some ⟨true, some Troubled.tomorrow⟩) := by
    rfl
  exact ⟨up, Troubled.regular, Troubled.settled, reads.trans stored⟩

namespace Collision

/-- The scope whose key has a colon is written and read. -/
def moves : List Move :=
  [.work (.upsertOverride .cutKey true none), .work (.getOverrideAt .cutKey .mayDay)]

/-- A scope is written for the time until a second has begun, and read before it. -/
def lateMoves : List Move :=
  [.work (.upsertOverride Troubled.scope true (some .fifthSecond)),
    .work (.getOverrideAt Troubled.scope (.startOf .leapDay))]

/--
What a read gives after some moves over a cache that works, and what the store has, where
neither fails.
-/
def answers (moves : List Move) (scope : Scope) (now : Instant) :
    Option (Option OverrideValue) × Option (Option OverrideValue) :=
  let ended := (run .absent 0 {} moves Troubled.start).2
  ((Operation.perform (handle .absent 0) (Layer.getOverrideAt {} scope now) ended).1.toOption,
    (ended.world.database.overrides.find scope now).toOption)

end Collision

/--
A scope with valid names is answered with the override of another that is cached under its
key, and in a leap second within a minute a cached override is seen past its expiry.
-/
theorem collision_reads_ne_store_reads :
    Scope.cutHolder.HasValidNames ∧
      (run .absent 0 {} Collision.moves Troubled.start).1.IsSettled
        (.override .cutHolder) ∧
      Collision.answers Collision.moves .cutHolder .mayDay =
        (some (some ⟨true, none⟩), some none) ∧
      Troubled.scope.HasValidNames ∧ Instant.withinMinute.HasPlainYear ∧
      (run .absent 0 {} Collision.lateMoves Troubled.start).1.IsSettled
        (.override Troubled.scope) ∧
      Collision.answers Collision.lateMoves Troubled.scope .withinMinute =
        (some (some ⟨true, some .fifthSecond⟩), some none) := by
  have settled : (run .absent 0 {} Collision.moves Troubled.start).1.IsSettled
      (.override .cutHolder) :=
    History.isSettled_of_succeeded (by decide) _
  have lateSettled : (run .absent 0 {} Collision.lateMoves Troubled.start).1.IsSettled
      (.override Troubled.scope) :=
    History.isSettled_of_succeeded (by decide) _
  exact ⟨by decide, settled, by decide +kernel, by decide, by decide, lateSettled,
    by decide +kernel⟩

end Switchboard.Site
