import Switchboard.Proofs.Coherence.Entries
import Switchboard.Proofs.Coherence.Moves
import Switchboard.Proofs.Layer.Inquiries
import Switchboard.Proofs.Wire.Messages

namespace Switchboard.Layer.Entry

/-!
# Keys of entries

A reader, a writer and a listener each make out for themselves under which key an entry is
cached: the reader from what it is asked for, the writer from what the store says that it
wrote, and the listener from the news.  They mean the same entry, and no two entries with
names that no colon cuts have one key.
-/

/-- The environment and the key have no colon. -/
def HasUncutNames : Entry → Prop
  | flag environment key => UncutNames environment key
  | override scope => UncutNames scope.environment scope.key

/-- Entries with uncut names have different cache keys. -/
theorem cacheKey_inj_of_uncut {first second : Entry}
    (firstUncut : first.HasUncutNames)
    (secondUncut : second.HasUncutNames) :
    first.cacheKey = second.cacheKey ↔ first = second := by
  cases first with
  | flag environment key =>
      cases second with
      | flag otherEnvironment otherKey =>
          rw [Entry.flag.injEq]
          exact flagCacheKey_inj_of_uncut secondUncut
      | override scope =>
          exact iff_of_false (flagCacheKey_ne_overrideCacheKey environment key scope) nofun
  | override scope =>
      cases second with
      | flag environment key =>
          exact iff_of_false (flagCacheKey_ne_overrideCacheKey environment key scope).symm nofun
      | override other =>
          rw [Entry.override.injEq]
          exact overrideCacheKey_inj_of_uncut firstUncut secondUncut

/-- An event tells a listener the cache key of an entry, as it was made and as it is received. -/
def IsNamedBy (entry : Entry) (event : Invalidation) : Prop :=
  event.cacheKey = entry.cacheKey ∧
    ∃ received : Invalidation, Wire.decode? (Wire.encode event) = some received ∧
      received.cacheKey = entry.cacheKey

/-- The instant of an event has no part in its cache key. -/
private theorem cacheKey_shown (event : Invalidation) :
    (Dated.shown event).cacheKey = event.cacheKey := by
  cases event <;> rfl

/-- What is received of an event names what the event names. -/
theorem isNamedBy_of_cacheKey {entry : Entry} {event : Invalidation}
    (same : event.cacheKey = entry.cacheKey) :
    entry.IsNamedBy event :=
  ⟨same, Dated.shown event, FaithfulWire.decode_encode event, (cacheKey_shown event).trans same⟩

/-- A request that has to do with a cache entry has to do with this one. -/
def IsMeantBy (entry : Entry) : Request → Prop
  | .call (.cacheGet cacheKey) => cacheKey = entry.cacheKey
  | .call (.cacheSet cacheKey _ _) => cacheKey = entry.cacheKey
  | .call (.cacheDelete cacheKey) => cacheKey = entry.cacheKey
  | .call (.publish _ event) => entry.IsNamedBy event
  | _ => True

end Switchboard.Layer.Entry

namespace Switchboard.Cluster

open Layer (Entry Task)

/-- The store says that what was asked is written. -/
def IsApplied (exchange : Exchange) : Prop :=
  match exchange with
  | ⟨.call (.applyFlagWrite ..), .answered (some _)⟩ => True
  | ⟨.call (.upsertOverride ..), .answered _⟩ => True
  | ⟨.call (.clearOverride _), .answered _⟩ => True
  | _ => False

/-- The replies of a deployment to one instance, which others change before each of them. -/
def handleAmong
    (others : Nat → World → World)
    (place : Nat)
    (request : Request)
    (state : World × Nat) :
    request.Reply × (World × Nat) :=
  let (reply, later) := (others state.2 state.1).handle place request
  (reply, later, state.2 + 1)

/-! ## Reads -/

/-- Terms of those who have to do with one entry and write nothing. -/
def reading (entry : Entry) : Terms where
  asks request := entry.IsMeantBy request ∧ ∀ reply, ¬IsApplied ⟨request, reply⟩
  gives _ _ := True

private theorem letsLookUp_reading (entry : Entry) :
    (reading entry).LetsLookUp entry.cacheKey :=
  Terms.letsLookUp ⟨rfl, fun _ => id⟩ ⟨rfl, fun _ => id⟩ fun _ _ => ⟨trivial, fun _ => id⟩

private theorem abides_getFlag_reading (layer : Layer) (environment key : String) :
    (layer.getFlag environment key).Abides (reading (.flag environment key)) fun _ => True :=
  Layer.abides_getFlag_of_lookUp (letsLookUp_reading (.flag environment key))
    ⟨trivial, fun _ => id⟩ (fun _ _ _ _ => trivial) (fun _ _ => trivial)
    fun _ _ => ⟨rfl, fun _ => id⟩

private theorem abides_getOverrideAt_reading (layer : Layer) (scope : Scope) (now : Instant) :
    (layer.getOverrideAt scope now).Abides (reading (.override scope)) fun _ => True :=
  Layer.abides_getOverrideAt_of_lookUp (letsLookUp_reading (.override scope))
    ⟨trivial, fun _ => id⟩ (fun _ _ _ _ => trivial) (fun _ _ => trivial)
    fun _ _ => ⟨rfl, fun _ => id⟩

section Exchanges

variable {State : Type} {handler : (request : Request) → State → request.Reply × State}
variable {layer : Layer} {state : State}

/-- Exchanges have to do with one entry, and where it was written they tell of it. -/
private structure TellsOf (layer : Layer) (entry : Entry) (exchanges : List Exchange) : Prop where
  means : ∀ exchange ∈ exchanges, entry.IsMeantBy exchange.request
  tells : (∃ exchange ∈ exchanges, IsApplied exchange) →
    ∃ event told, ⟨.call (.publish layer.topic event), told⟩ ∈ exchanges

/-- Where nothing was written, there is nothing to tell. -/
private theorem tellsOf_of_not_isApplied {entry : Entry} {exchanges : List Exchange}
    (means : ∀ exchange ∈ exchanges, entry.IsMeantBy exchange.request)
    (silent : ∀ exchange ∈ exchanges, ¬IsApplied exchange) :
    TellsOf layer entry exchanges where
  means := means
  tells applied := by
    obtain ⟨exchange, member, isApplied⟩ := applied
    exact absurd isApplied (silent exchange member)

private theorem tellsOf_of_abides {entry : Entry} {operation : Operation α}
    (abides : operation.Abides (reading entry) fun _ => True) :
    TellsOf layer entry (operation.run.exchanges handler state) := by
  have asked : ∀ exchange ∈ operation.run.exchanges handler state,
      (reading entry).asks exchange.request :=
    (abides.exchanges fun _ _ => trivial).2
  exact tellsOf_of_not_isApplied (fun exchange member => (asked exchange member).1)
    fun exchange member => (asked exchange member).2 exchange.reply

/-- A read looks its entry up. -/
private theorem looks_of_isRead {task : Task} (reads : task.isRead = true) :
    ∃ exchange ∈ (task.operation layer).run.exchanges handler state,
      exchange.request = .call (.cacheGet task.entry.cacheKey) := by
  cases task with
  | getFlag environment key => exact ⟨_, List.mem_cons_self, rfl⟩
  | getOverride scope => exact ⟨_, List.mem_cons_of_mem _ List.mem_cons_self, rfl⟩
  | getOverrideAt scope now => exact ⟨_, List.mem_cons_self, rfl⟩
  | writeFlag write expected => cases reads
  | upsertOverride scope value expiresAt => cases reads
  | clearOverride scope => cases reads

/-! ## Writes -/

/-- Only calls have to do with an entry. -/
private theorem tellsOf_of_calls {entry : Entry} {exchanges calls : List Exchange}
    (made : exchanges.filter Exchange.isCall = calls)
    (told : TellsOf layer entry calls) :
    TellsOf layer entry exchanges where
  means exchange member := by
    rcases isCall : exchange.isCall with _ | _
    · rcases exchange with ⟨_ | _ | _ | _ | _ | _ | _, reply⟩
      · cases isCall
      all_goals trivial
    · exact told.means exchange (made ▸ List.mem_filter.mpr ⟨member, isCall⟩)
  tells applied := by
    obtain ⟨exchange, member, isApplied⟩ := applied
    have isCall : exchange.isCall = true := by
      rcases exchange with ⟨_ | _ | _ | _ | _ | _ | _, reply⟩
      · rfl
      all_goals exact isApplied.elim
    obtain ⟨event, reached, published⟩ :=
      told.tells ⟨exchange, made ▸ List.mem_filter.mpr ⟨member, isCall⟩, isApplied⟩
    exact ⟨event, reached, (List.mem_filter.mp (made ▸ published)).1⟩

private theorem tellsOf_of_announces {entry : Entry} {event : Instant → Invalidation} {value : α}
    {asked : Exchange} {calls : List Exchange} {outcome : Except ServiceError α}
    (means : entry.IsMeantBy asked.request)
    (names : ∀ now, (event now).cacheKey = entry.cacheKey)
    (announces : Layer.Announces layer.topic entry.cacheKey event value calls outcome) :
    TellsOf layer entry (asked :: calls) := by
  obtain ⟨now, dropped, told, rfl, _⟩ := announces
  constructor
  · simp only [List.forall_mem_cons]
    exact ⟨means, rfl, Entry.isNamedBy_of_cacheKey (names now), by simp⟩
  · exact fun _ => ⟨event now, told, by simp⟩

private theorem tellsOf_of_writesOverride {scope : Scope} {asked : Call}
    {reply : Outcome asked.Answer} {calls : List Exchange}
    {outcome : Except ServiceError asked.Answer}
    (means : (Entry.override scope).IsMeantBy (.call asked))
    (answers : ∀ reply : Outcome asked.Answer, IsApplied ⟨.call asked, reply⟩ →
      ∃ value, reply = .answered value)
    (writes : layer.WritesOverride scope (reply.toExcept asked.operation) calls outcome) :
    TellsOf layer (.override scope) (⟨.call asked, reply⟩ :: calls) := by
  have unanswered (other : ∀ value, reply ≠ .answered value) :
      TellsOf layer (.override scope) [⟨.call asked, reply⟩] := by
    refine tellsOf_of_not_isApplied (by simpa using means) ?_
    intro exchange member applied
    rw [List.mem_singleton.mp member] at applied
    obtain ⟨value, answered⟩ := answers reply applied
    exact other value answered
  cases reply with
  | answered value => exact tellsOf_of_announces means (fun _ => rfl) writes
  | failed error =>
      obtain ⟨rfl, _⟩ := writes
      exact unanswered nofun
  | timedOut =>
      obtain ⟨rfl, _⟩ := writes
      exact unanswered nofun

private theorem tellsOf_of_writesFlag {write : FlagWrite} {expected : Option Int64}
    {reply : Outcome (Option Flag)} {calls : List Exchange} {outcome : Except ServiceError Flag}
    (named : ∀ flag, reply = .answered (some flag) →
      flag.environment = write.environment ∧ flag.key = write.key)
    (writes : layer.WritesFlag write expected (reply.toExcept "flag write") calls outcome) :
    TellsOf layer (.flag write.environment write.key)
      (⟨.call (.applyFlagWrite write expected), reply⟩ :: calls) := by
  cases reply with
  | answered flag? =>
      cases flag? with
      | some flag =>
          obtain ⟨sameEnvironment, sameKey⟩ := named flag rfl
          simp only [Outcome.toExcept, Layer.WritesFlag, sameEnvironment, sameKey] at writes
          exact tellsOf_of_announces trivial (fun _ => rfl) writes
      | none =>
          obtain ⟨actual, rfl, _⟩ := writes
          exact tellsOf_of_not_isApplied (by simp [Entry.IsMeantBy]) (by simp [IsApplied])
  | failed error =>
      obtain ⟨rfl, _⟩ := writes
      exact tellsOf_of_not_isApplied (by simp [Entry.IsMeantBy]) (by simp [IsApplied])
  | timedOut =>
      obtain ⟨rfl, _⟩ := writes
      exact tellsOf_of_not_isApplied (by simp [Entry.IsMeantBy]) (by simp [IsApplied])

/-- An operation has to do with its own entry, if a flag is stored under the names of its write. -/
private theorem tellsOf_exchanges (task : Task)
    (named : ∀ write expected state flag,
      (handler (.call (.applyFlagWrite write expected)) state).1 = .answered (some flag) →
        flag.environment = write.environment ∧ flag.key = write.key) :
    TellsOf layer task.entry ((task.operation layer).run.exchanges handler state) := by
  cases task with
  | getFlag environment key =>
      exact tellsOf_of_abides (abides_getFlag_reading layer environment key)
  | getOverride scope =>
      refine tellsOf_of_abides (Operation.abides_bind (Operation.abides_ask ⟨trivial, ?_⟩ ?_))
      · intro reply applied
        exact applied
      · intro now _
        exact abides_getOverrideAt_reading layer scope now
  | getOverrideAt scope now =>
      exact tellsOf_of_abides (abides_getOverrideAt_reading layer scope now)
  | writeFlag write expected =>
      obtain ⟨rest, made, comes⟩ := layer.follows_writeFlag handler write expected state
      exact tellsOf_of_calls made (tellsOf_of_writesFlag (named write expected state) comes)
  | upsertOverride scope value expiresAt =>
      obtain ⟨rest, made, comes⟩ :=
        layer.follows_upsertOverride handler scope value expiresAt state
      refine tellsOf_of_calls made
        (tellsOf_of_writesOverride trivial (fun reply applied => ?_) comes)
      cases reply with
      | answered stored => exact ⟨stored, rfl⟩
      | failed error => cases applied
      | timedOut => cases applied
  | clearOverride scope =>
      obtain ⟨rest, made, comes⟩ := layer.follows_clearOverride handler scope state
      refine tellsOf_of_calls made
        (tellsOf_of_writesOverride trivial (fun reply applied => ?_) comes)
      cases reply with
      | answered cleared => exact ⟨cleared, rfl⟩
      | failed error => cases applied
      | timedOut => cases applied

end Exchanges

/--
Entries whose names have no colon, as the names that requests are checked for have none, have
different cache keys, whoever holds an override.  And whatever else happens in a deployment, an
operation looks up, fills, drops and tells of nothing but the entry of what it reads or writes:
a read looks that entry up, and a write that was applied publishes an event that names its key,
as it is sent and as it is read again.
-/
theorem cache_keys_identify_entries :
    (∀ entry : Entry, entry.IsValid → entry.HasUncutNames) ∧
      (∀ first second : Entry, first.HasUncutNames → second.HasUncutNames →
        (first.cacheKey = second.cacheKey ↔ first = second)) ∧
      ∀ (others : Nat → World → World) (place : Nat) (layer : Layer) (world : World) (task : Task),
        let exchanges := (task.operation layer).run.exchanges (handleAmong others place) (world, 0)
        (∀ exchange ∈ exchanges, task.entry.IsMeantBy exchange.request) ∧
          (task.isRead = true → ∃ exchange ∈ exchanges,
            exchange.request = .call (.cacheGet task.entry.cacheKey)) ∧
          ((∃ exchange ∈ exchanges, IsApplied exchange) →
            ∃ event told, ⟨.call (.publish layer.topic event), told⟩ ∈ exchanges) := by
  refine ⟨?_, fun first second => Entry.cacheKey_inj_of_uncut, ?_⟩
  · intro entry valid
    cases entry with
    | flag environment key => exact ValidNames.uncut valid
    | override scope => exact ValidNames.uncut valid
  · intro others place layer world task
    have told : TellsOf layer task.entry
        ((task.operation layer).run.exchanges (handleAmong others place) (world, 0)) := by
      refine tellsOf_exchanges task fun write expected state flag answered => ?_
      have applied :
          (others state.2 state.1).handle place (.call (.applyFlagWrite write expected)) =
            (.answered (some flag), _) :=
        Prod.ext answered rfl
      obtain ⟨sameEnvironment, sameKey, _⟩ := World.stored_of_applied applied
      exact ⟨sameEnvironment, sameKey⟩
    exact ⟨told.means, looks_of_isRead, told.tells⟩

namespace Colons

/-- A scope whose holder is written like the rest of another cache key. -/
def scope : Scope :=
  ⟨"prod", "beta.search", .user, "x:tenant: ☃"⟩

/-- A scope whose cache key begins like that one. -/
def other : Scope :=
  ⟨"prod", "beta.search", .user, "x"⟩

/-- One instance without rows. -/
def world : World :=
  ({ calendar := Instant.mayDay } : World).addInstance {}

/-- Before each reply another scope is cleared. -/
def others (_ : Nat) (world : World) : World :=
  (world.perform 0 (Layer.clearOverride {} other)).2

/-- What a task exchanges meanwhile. -/
def exchanges (task : Task) : List Exchange :=
  (task.operation {}).run.exchanges (handleAmong others 0) (world, 0)

end Colons

/-- A holder with colons and blanks has a key of its own: it is read and told of under that key. -/
theorem cache_keys_identify_entries_colons :
    (Entry.override Colons.scope).IsValid ∧ (Entry.override Colons.other).IsValid ∧
      (Entry.override Colons.scope).cacheKey ≠ (Entry.override Colons.other).cacheKey ∧
      (∃ exchange ∈ Colons.exchanges (.getOverride Colons.scope),
        exchange.request = .call (.cacheGet (Entry.override Colons.scope).cacheKey)) ∧
      (∃ exchange ∈ Colons.exchanges (.clearOverride Colons.scope), IsApplied exchange) ∧
      ∃ event told,
        ⟨.call (.publish Invalidation.defaultTopic event), told⟩ ∈
            Colons.exchanges (.clearOverride Colons.scope) ∧
          (Entry.override Colons.scope).IsNamedBy event := by
  obtain ⟨uncut, identifies, means⟩ := cache_keys_identify_entries
  have valid : (Entry.override Colons.scope).IsValid := by
    show Colons.scope.HasValidNames
    decide
  have otherValid : (Entry.override Colons.other).IsValid := by
    show Colons.other.HasValidNames
    decide
  have differ : (Entry.override Colons.scope).cacheKey ≠ (Entry.override Colons.other).cacheKey :=
    fun same => absurd ((identifies _ _ (uncut _ valid) (uncut _ otherValid)).mp same) (by decide)
  have applied :
      ∃ exchange ∈ Colons.exchanges (.clearOverride Colons.scope), IsApplied exchange :=
    ⟨_, List.mem_cons_self, trivial⟩
  obtain ⟨_, looks, _⟩ := means Colons.others 0 {} Colons.world (.getOverride Colons.scope)
  obtain ⟨meant, _, tells⟩ := means Colons.others 0 {} Colons.world (.clearOverride Colons.scope)
  obtain ⟨event, told, published⟩ := tells applied
  exact ⟨valid, otherValid, differ, looks rfl, applied, event, told, published,
    meant _ published⟩

end Switchboard.Cluster
