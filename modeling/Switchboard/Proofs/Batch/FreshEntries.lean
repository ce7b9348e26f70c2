import Switchboard.Proofs.Layer.Freshness
import Switchboard.Proofs.Resolution.Lookups
import Switchboard.Proofs.Store.Shown
import Switchboard.Proofs.Transparency.FaultyCache

namespace Switchboard

/-!
# Resolutions over fresh entries

Where the rows stay as they are and the clock stands still, the tables alone say what each tier
reads.  A cache whose entries of these tiers agree with them, whatever it forgets and however
it fails, cannot be noticed.
-/

/-- What the tables say to the reads of the tiers at an instant. -/
def Database.tierReads
    (database : Database)
    (environment key : String)
    (tenantId userId : Option String)
    (now : Instant) : TierReads where
  user := (userId.map (Scope.user environment key)).map (database.overrides.find · now)
  tenant := (tenantId.map (Scope.tenant environment key)).map (database.overrides.find · now)
  flag := database.flags.read environment key

/-- Whoever can read a text under a key of the cache learns what the tables say at an instant. -/
structure Database.AgreesAt
    (database : Database)
    (now : Instant)
    (cacheKey text : String) : Prop where
  flag : ∀ environment key flag, ValidNames environment key →
    cacheKey = flagCacheKey environment key → Wire.decode? text = some flag →
      database.flags.read environment key = .ok (some flag)
  override : ∀ (scope : Scope) (value : OverrideValue), scope.HasValidNames →
    cacheKey = overrideCacheKey scope → Wire.decode? text = some value →
      database.overrides.find scope now = .ok (if value.isActive now then some value else none)

/-- Reads of some entries over tables that stay as they are, by a clock that stands still. -/
def Terms.still (database : Database) (now : Instant) (cacheKeys : List String) : Terms where
  asks
    | .call (.cacheSet cacheKey text _) =>
        cacheKey ∈ cacheKeys ∧ database.AgreesAt now cacheKey text
    | request => request.IsAbout cacheKeys
  gives
    | .readClock, clock => clock = now
    | .call (.cacheGet cacheKey), .answered (some text) => database.AgreesAt now cacheKey text
    | .call (.readFlag environment key), outcome =>
        outcome = .ofExcept (database.flags.read environment key)
    | .call (.findOverride scope readAt), outcome =>
        outcome = .ofExcept (database.overrides.find scope readAt)
    | _, _ => True

variable {database : Database} {now : Instant}

theorem Database.agreesAt_flag {environment key : String} {flag : Flag}
    (read : database.flags.read environment key = .ok (some flag)) :
    database.AgreesAt now (flagCacheKey environment key) (Wire.encode flag) where
  flag otherEnvironment otherKey other valid same decoded := by
    obtain ⟨rfl, rfl⟩ := (flagCacheKey_inj valid).mp same
    rw [FaithfulWire.decode_encode_of_isShown (FlagTable.isShown_of_read read)] at decoded
    rw [read, decoded]
  override scope _ _ same := absurd same (flagCacheKey_ne_overrideCacheKey environment key scope)

theorem Database.agreesAt_override {calendar : Instant} {scope : Scope} {value : OverrideValue}
    (recorded : database.overrides.IsRecorded calendar)
    (storable : now.IsStorable)
    (valid : scope.HasValidNames)
    (found : database.overrides.find scope now = .ok (some value)) :
    database.AgreesAt now (overrideCacheKey scope) (Wire.encode value) where
  flag environment key _ _ same _ :=
    absurd same.symm (flagCacheKey_ne_overrideCacheKey environment key scope)
  override other copy otherValid same decoded := by
    obtain rfl := (overrideCacheKey_inj valid otherValid).mp same
    rw [FaithfulWire.decode_encode_of_isShown (OverrideTable.isShown_of_find found)] at decoded
    cases decoded
    obtain ⟨state?, shown, only⟩ := recorded.find_eq scope
    rw [shown now storable, only now value found]
    rfl

namespace Resolver

variable {resolver : Resolver} {environment key : String} {tenantId userId : Option String}
variable {context : Context}

/-- An instant that is pinned when the clock shows it changes no outcome. -/
theorem outcome_pinned (reads : TierReads) (policy : FailurePolicy) (context : Context)
    (now : Instant) :
    reads.outcome policy (context.pinned now) now = reads.outcome policy context now := by
  have same : (fun flag? => resolveFlag flag? (context.pinned now) now) =
      fun flag? => resolveFlag flag? context now :=
    funext (resolveFlag_pinned context now now)
  unfold TierReads.outcome
  rw [same]

private theorem eq_map_of_rel {find : α → β} {first : Option α} {second : Option β}
    (related : Option.Rel (fun value found => found = find value) first second) :
    second = first.map find := by
  cases related with
  | some found => exact congrArg some found
  | none => rfl

/-- Where there is one answer to each read, there is one outcome. -/
theorem Explains.outcome_eq {policy : FailurePolicy} {find : Scope → OverrideRead}
    {flag : Except ServiceError (Option Flag)} {reads : TierReads}
    (explained : Explains policy (fun scope read => read = find scope) (· = flag) environment key
      tenantId userId reads) :
    reads.outcome policy context now =
      TierReads.outcome
        ⟨(userId.map (Scope.user environment key)).map find,
          (tenantId.map (Scope.tenant environment key)).map find, flag⟩
        policy context now := by
  have decided := Decided.decided_outcome policy context now reads
  obtain ⟨user, tenant, read⟩ := reads
  obtain rfl := eq_map_of_rel explained.user
  refine (Decided.eq_outcome ?_).symm
  by_cases userPasses : policy.Passes ((userId.map (Scope.user environment key)).map find)
  · obtain rfl := eq_map_of_rel (explained.tenant userPasses)
    by_cases tenantPasses : policy.Passes ((tenantId.map (Scope.tenant environment key)).map find)
    · obtain rfl := explained.flag userPasses tenantPasses
      exact decided
    · exact decided.of_tenant tenantPasses flag
  · exact decided.of_user userPasses _ flag

/-- Over tables that stay as they are, a resolution ends as they have it. -/
theorem abides_resolve_still (resolver : Resolver) (tenantId userId : Option String)
    (context : Context) {calendar : Instant} {cacheKeys : List String}
    (recorded : database.overrides.IsRecorded calendar)
    (storable : now.IsStorable)
    (valid : ValidNames environment key)
    (within : ∀ cacheKey ∈ tierKeys environment key tenantId userId, cacheKey ∈ cacheKeys) :
    (resolver.resolve environment key tenantId userId context).Abides
      (.still database now cacheKeys) (· =
        (database.tierReads environment key tenantId userId now).outcome resolver.policy context
          now) := by
  have lets {cacheKey : String} (member : cacheKey ∈ cacheKeys) :
      (Terms.still database now cacheKeys).LetsLookUp cacheKey :=
    Terms.letsLookUp member member fun _ _ => trivial
  have overrides (scope : Scope) (isTier : scope ∈ tierScopes environment key tenantId userId) :
      (resolver.layer.getOverride scope).Abides (.still database now cacheKeys)
        (· = database.overrides.find scope now) := by
    have named := hasValidNames_of_mem_tierScopes valid isTier
    have member := within _ (overrideCacheKey_mem_tierKeys isTier)
    refine Layer.abides_getOverride trivial fun clock isNow => ?_
    obtain rfl : clock = now := isNow
    refine Layer.abides_getOverrideAt_of_lookUp (lets member) trivial
      (fun text copy agrees decoded => ?_) (fun outcome isRead => ?_)
      (fun value isRead => ⟨member, ?_⟩)
    · rw [agrees.override scope copy named rfl decoded, Option.filter_some]
    · obtain rfl : outcome = .ofExcept (database.overrides.find scope clock) := isRead
      exact Outcome.toExcept_ofExcept _ _
    · exact Database.agreesAt_override recorded storable named
        (Outcome.answered_eq_ofExcept_iff.mp isRead)
  have flags : (resolver.layer.getFlag environment key).Abides (.still database now cacheKeys)
      (· = database.flags.read environment key) := by
    have member := within _ flagCacheKey_mem_tierKeys
    refine Layer.abides_getFlag_of_lookUp (lets member) trivial
      (fun text flag agrees decoded => ?_) (fun outcome isRead => ?_)
      (fun flag isRead => ⟨member, ?_⟩)
    · exact (agrees.flag environment key flag valid rfl decoded).symm
    · obtain rfl : outcome = .ofExcept (database.flags.read environment key) := isRead
      exact Outcome.toExcept_ofExcept _ _
    · exact Database.agreesAt_flag (Outcome.answered_eq_ofExcept_iff.mp isRead)
  have stands (clock : Instant)
      (isNow : (Terms.still database now cacheKeys).gives .readClock clock) :
      context.instantAt clock = context.instantAt now := by
    obtain rfl : clock = now := isNow
    rfl
  exact abides_resolve trivial (fun _ _ => trivial) overrides flags stands
    fun reads explained => explained.outcome_eq

end Resolver

/-! ## Fresh entries -/

namespace Backing

variable {State : Type} {backing : Backing State} {state : State} {cacheKeys : List String}

/-- The stores answer from these tables, and the cache agrees with them about some entries. -/
structure Stands
    (backing : Backing State)
    (database : Database)
    (now : Instant)
    (cacheKeys : List String)
    (state : State) : Prop where
  isUp : backing.isUp state
  rows : backing.database state = database
  agrees : ∀ cacheKey ∈ cacheKeys, ∀ text, backing.mayGive state cacheKey text →
    database.AgreesAt now cacheKey text

private theorem Stands.quiet {later : State} (stands : backing.Stands database now cacheKeys state)
    (quiet : backing.Quiet state later) : backing.Stands database now cacheKeys later where
  isUp := quiet.isUp
  rows := quiet.database.trans stands.rows
  agrees cacheKey member text given :=
    stands.agrees cacheKey member text (quiet.entries cacheKey text given)

private theorem Stands.fills {cacheKey text : String} {later : State}
    (stands : backing.Stands database now cacheKeys state)
    (fills : backing.Fills cacheKey text state later)
    (agrees : database.AgreesAt now cacheKey text) :
    backing.Stands database now cacheKeys later where
  isUp := fills.isUp
  rows := fills.database.trans stands.rows
  agrees otherKey member otherText given := by
    rcases fills.entries otherKey otherText given with old | ⟨rfl, rfl⟩
    · exact stands.agrees otherKey member otherText old
    · exact agrees

/-- What the layer relies on keeps to tables that nobody writes. -/
theorem Stands.serves (request : Request) (stands : backing.Stands database now cacheKeys state)
    (asks : (Terms.still database now cacheKeys).asks request) :
    (Terms.still database now cacheKeys).gives request
        (stopped now backing.handle request state).1 ∧
      backing.Stands database now cacheKeys (stopped now backing.handle request state).2 := by
  have up := stands.isUp
  cases request with
  | readClock => exact ⟨rfl, stands⟩
  | count counter amount => exact ⟨trivial, stands.quiet (backing.count state counter amount up)⟩
  | call asked =>
      cases asked with
      | cacheGet cacheKey =>
          obtain ⟨quiet, given⟩ := backing.cacheGet state cacheKey up
          refine ⟨?_, stands.quiet quiet⟩
          change (Terms.still database now cacheKeys).gives _
            (backing.handle (.call (.cacheGet cacheKey)) state).1
          generalize (backing.handle (.call (.cacheGet cacheKey)) state).1 = reply at given ⊢
          cases reply with
          | failed error => trivial
          | timedOut => trivial
          | answered text? =>
              cases text? with
              | none => trivial
              | some text => exact stands.agrees cacheKey asks text (given text rfl)
      | cacheSet cacheKey text lifetime =>
          exact ⟨trivial, stands.fills (backing.cacheSet state cacheKey text lifetime up) asks.2⟩
      | cacheDelete cacheKey =>
          exact ⟨trivial, stands.quiet (backing.cacheDelete state cacheKey up).1⟩
      | readFlag environment key =>
          obtain ⟨read, quiet⟩ := backing.readFlag state environment key up
          exact ⟨stands.rows ▸ read, stands.quiet quiet⟩
      | findOverride scope readAt =>
          obtain ⟨found, quiet⟩ := backing.findOverride state scope readAt up
          exact ⟨stands.rows ▸ found, stands.quiet quiet⟩
      | _ => exact absurd asks id
  | _ => exact absurd asks id

end Backing

/-- Counting the keys of a batch leaves what reads see as it was. -/
theorem Site.stands_observeBatch {faults : CacheFaults} {place : Nat} {site : Site}
    {cacheKeys : List String}
    (stands : (Site.backing faults place).Stands database now cacheKeys site)
    (keys : Nat) :
    (Site.backing faults place).Stands database now cacheKeys
      (Site.handle faults place (.observeBatch keys) site).2 := by
  obtain ⟨state, present, flags, overrides⟩ := stands.isUp
  have counted : (site.world.handle place (.observeBatch keys)).2 =
      site.world.modifyInstance place fun state =>
        { state with metrics := state.metrics.observeBatch keys } :=
    congrArg Prod.snd (World.handle_eq present _)
  have same := World.SameStores.modifyInstance site.world place
    (fun state => { state with metrics := state.metrics.observeBatch keys })
    (fun _ => rfl) (fun _ => .refl _)
  have after : (Site.handle faults place (.observeBatch keys) site).2 =
      { site with world := site.world.modifyInstance place fun state =>
        { state with metrics := state.metrics.observeBatch keys } } :=
    congrArg (fun world => { site with world }) counted
  rw [after]
  obtain ⟨changed, changedPresent, backends⟩ :=
    World.present_of_backends (same.backends place) present
  exact {
    isUp := ⟨changed, changedPresent, backends ▸ flags, backends ▸ overrides⟩
    rows := stands.rows
    agrees := stands.agrees }

end Switchboard
