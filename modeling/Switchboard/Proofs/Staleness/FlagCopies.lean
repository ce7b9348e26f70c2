import Switchboard.Proofs.Deployment.Weather
import Switchboard.Proofs.Validity.Rows
import Switchboard.Proofs.Versions.FlagStatements

namespace Switchboard

/-!
# Copies of flags

What an instance has cached of a flag is what the store had at some moment, no more than a
lifetime before the deadline of the entry.  Reads fill the cache with nothing else, and since
they leave the flags alone, the moment after a read stands in for the one of its fill.  Writes
fill nothing.
-/

namespace FlagTable

/-- A flag that is read of valid rows has valid names. -/
theorem validNames_of_read {table : FlagTable} (rows : ∀ row ∈ table.rows, row.IsValid)
    {environment key : String} {flag : Flag} (read : table.read environment key = .ok (some flag)) :
    ValidNames environment key := by
  obtain ⟨row, found, _⟩ := exists_row_of_read read
  obtain ⟨sameEnvironment, sameKey⟩ := names_of_row found
  have valid := rows row (List.mem_of_find?_eq_some found)
  exact ⟨isEnvironment_iff.mpr (sameEnvironment ▸ valid.environment),
    isFlagKey_iff.mpr (sameKey ▸ valid.key)⟩

end FlagTable

namespace World

variable {world : World} {place : Nat}

/-- What a lookup gives is an entry that still counts. -/
theorem entry_of_cacheGet {cacheKey text : String}
    (given : (world.handle place (.call (.cacheGet cacheKey))).1 = .answered (some text)) :
    ∃ entry, world.entryAt place cacheKey = some entry ∧ entry.value = text ∧
      world.clock < entry.expiresAt := by
  have working : (world.instances[place]?.getD unreachable).backends.cache = .working :=
    working_of_answered given
  cases present : world.instances[place]? with
  | none =>
      rw [present] at working
      cases working
  | some state =>
      rw [present] at working
      rw [handle_cacheGet present working] at given
      obtain ⟨entry, found, value, live⟩ := Cache.live_of_get (Outcome.answered.inj given)
      exact ⟨entry, Option.bind_eq_some_iff.mpr ⟨state, present, found⟩, value, live⟩

end World

namespace Staleness

/-! ## Moments -/

/-- An entry of an override, or a copy of a flag that the store had at one of the moments. -/
def IsExplained (moments : List World) (lifetime : Nat) (cacheKey : String) (entry : CacheEntry) :
    Prop :=
  (∃ scope, cacheKey = overrideCacheKey scope) ∨
    ∃ moment ∈ moments, entry.expiresAt ≤ moment.clock + lifetime ∧
      ∃ environment key flag, cacheKey = flagCacheKey environment key ∧
        moment.database.flags.read environment key = .ok (some flag) ∧
          entry.value = Wire.encode flag

/-- All entries of all caches are explained by the moments. -/
def AreExplained (moments : List World) (world : World) : Prop :=
  ∀ place state, world.instances[place]? = some state →
    ∀ cacheKey entry, world.entryAt place cacheKey = some entry →
      IsExplained moments state.service.layer.lifetime cacheKey entry

/-- The store itself gave this answer at a moment, no longer than a lifetime ago. -/
def ReadWithin (lifetime : Nat) (moments : List World) (clock : Nat) (environment key : String)
    (answer : Except ServiceError (Option Flag)) : Prop :=
  ∃ moment ∈ moments, moment.clock ≤ clock ∧ clock ≤ moment.clock + lifetime ∧
    moment.database.flags.read environment key = answer

/-- For each moment there is one of the others, no earlier, at which the flags were the same. -/
def StandIn (moments others : List World) : Prop :=
  ∀ moment ∈ moments, ∃ other ∈ others, moment.clock ≤ other.clock ∧
    other.database.flags = moment.database.flags

/-- What holds all along a course of events. -/
structure IsChronicle (past : List World) (world : World) : Prop where
  valid : ∀ moment ∈ world :: past, moment.database.IsValid
  ordered : ∀ moment ∈ world :: past, moment.clock ≤ world.clock
  explained : AreExplained (world :: past) world

variable {moments others past : List World} {world later next : World}
variable {added : Nat → String → CacheEntry → Prop} {place : Nat} {lifetime : Nat}

theorem StandIn.of_subset (isSubset : moments ⊆ others) : StandIn moments others :=
  fun moment isMoment => ⟨moment, isSubset isMoment, Nat.le_refl _, rfl⟩

/-- The last moment may move on as long as the flags stay. -/
theorem StandIn.of_last (flags : next.database.flags = later.database.flags)
    (clock : later.clock ≤ next.clock) :
    StandIn (later :: moments) (next :: moments) := by
  intro moment isMoment
  rcases List.mem_cons.mp isMoment with rfl | isOld
  · exact ⟨next, List.mem_cons_self, clock, flags⟩
  · exact ⟨moment, List.mem_cons_of_mem next isOld, Nat.le_refl _, rfl⟩

theorem IsExplained.mono {cacheKey : String} {entry : CacheEntry}
    (explained : IsExplained moments lifetime cacheKey entry)
    (standIn : StandIn moments others) :
    IsExplained others lifetime cacheKey entry := by
  refine explained.imp_right ?_
  rintro ⟨moment, isMoment, bound, environment, key, flag, isKey, read, isText⟩
  obtain ⟨other, isOther, clock, same⟩ := standIn moment isMoment
  exact ⟨other, isOther, by omega, environment, key, flag, isKey, by rwa [same], isText⟩

theorem AreExplained.mono (explained : AreExplained moments world)
    (standIn : StandIn moments others) :
    AreExplained others world :=
  fun place state present cacheKey entry held =>
    (explained place state present cacheKey entry held).mono standIn

/-- What goes on without new entries but explained ones leaves all entries explained. -/
theorem AreExplained.carry (explained : AreExplained moments world)
    (standIn : StandIn moments others)
    (continues : World.Continues added world later)
    (adds : ∀ place state, later.instances[place]? = some state → ∀ cacheKey entry,
      added place cacheKey entry →
        IsExplained others state.service.layer.lifetime cacheKey entry) :
    AreExplained others later := by
  intro place state present cacheKey entry held
  rcases continues.entries place cacheKey entry held with ⟨old, wasHeld, value, deadline⟩ | isNew
  · obtain ⟨before, wasPresent, _⟩ := Option.bind_eq_some_iff.mp wasHeld
    obtain ⟨changed, isPresent, service⟩ := continues.services place before wasPresent
    cases isPresent.symm.trans present
    have was := (explained place before wasPresent cacheKey old wasHeld).mono standIn
    unfold IsExplained at was ⊢
    rwa [value, deadline, ← service] at was
  · exact adds place state present cacheKey entry isNew

/-- Where nothing is added at all, there is nothing to explain. -/
theorem AreExplained.carry_nothing (explained : AreExplained moments world)
    (standIn : StandIn moments others)
    (continues : World.Continues World.nothing world later) :
    AreExplained others later :=
  explained.carry standIn continues fun _ _ _ _ _ impossible => impossible.elim

/-- What a copy of a flag tells is what the store gave at one of the moments. -/
theorem IsExplained.read_of_decoded {entry : CacheEntry} {environment key : String} {flag : Flag}
    (explained : IsExplained moments lifetime (flagCacheKey environment key) entry)
    (valid : ∀ moment ∈ moments, ∀ row ∈ moment.database.flags.rows, row.IsValid)
    (decoded : Wire.decode? entry.value = some flag) :
    ∃ moment ∈ moments, entry.expiresAt ≤ moment.clock + lifetime ∧
      moment.database.flags.read environment key = .ok (some flag) := by
  rcases explained with ⟨scope, isKey⟩ | ⟨moment, isMoment, bound, _, _, _, isKey, read, isText⟩
  · exact absurd isKey (flagCacheKey_ne_overrideCacheKey environment key scope)
  · have named := FlagTable.validNames_of_read (valid moment isMoment) read
    obtain ⟨rfl, rfl⟩ := (flagCacheKey_inj named).mp isKey
    rw [isText, FaithfulWire.decode_encode_of_isShown (FlagTable.isShown_of_read read)] at decoded
    cases decoded
    exact ⟨moment, isMoment, bound, read⟩

end Staleness

end Switchboard
