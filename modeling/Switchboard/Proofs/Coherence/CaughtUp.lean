import Switchboard.Proofs.Coherence.Invariant
import Switchboard.Proofs.Layer.Reads
import Switchboard.Proofs.Layer.Writes

namespace Switchboard.Cluster

open Backing
open Layer (Entry Task)

/-!
# Who has caught up reads what is stored

In every world that a run of a cluster reaches, an instance for which no event waits reads
through its cache what it would read from the store.  The invariant is that every stale
text has its event on the way; here it is kept by every operation and every move.
-/

variable {topic : String} {world : World} {place : Nat}

namespace IsCoherent

section Writes

variable {layer : Layer}
  (coherent : IsCoherent topic world)
  (up : (member place).isUp world)
  (speaks : layer.topic = topic)
  (plainYear : world.calendar.HasPlainYear)

include coherent up speaks plainYear

/-- What a write of a flag leaves is read, so every write that applied is announced. -/
private theorem writeFlag (write : FlagWrite) (expected : Option Int64)
    (keepsUp : (world.perform place (layer.writeFlag write expected)).2.bus.KeepsUp)
    (laterPlain :
      (world.perform place (layer.writeFlag write expected)).2.calendar.HasPlainYear) :
    IsCoherent topic (world.perform place (layer.writeFlag write expected)).2 := by
  obtain ⟨outcome, later, performs, cases⟩ :=
    (member place).writeFlag_spec layer write expected up
  have ended : (world.perform place (layer.writeFlag write expected)).2 = later :=
    congrArg Prod.snd performs
  rw [ended] at keepsUp laterPlain ⊢
  rcases cases with ⟨_, _, quiet⟩ | ⟨row, applied, ⟨error, unread, _⟩ | announced⟩
  · exact coherent.lose quiet
  · obtain ⟨flag, decoded⟩ := coherent.flags.applied plainYear applied
    exact absurd (unread.symm.trans decoded) nofun
  · obtain ⟨flag, event, _, keyed, invalidates⟩ := announced
    have announces := announces_of_invalidates invalidates
    rw [speaks] at announces
    refine coherent.announce announces keepsUp plainYear laterPlain coherent.overrides
      (fun _ => id) ?_
    intro entry different
    exact entry.sameRow_apply expected _ (keyed ▸ different)

/-- What a new value leaves is read, so every new value is announced. -/
private theorem upsertOverride (scope : Scope) (value : Bool) {expiresAt : Option Instant}
    (expiryPlain : ∀ expiry ∈ expiresAt, expiry.HasPlainYear)
    (keepsUp :
      (world.perform place (layer.upsertOverride scope value expiresAt)).2.bus.KeepsUp)
    (laterPlain :
      (world.perform place (layer.upsertOverride scope value expiresAt)).2.calendar.HasPlainYear) :
    IsCoherent topic (world.perform place (layer.upsertOverride scope value expiresAt)).2 := by
  obtain ⟨id, outcome, later, performs, cases⟩ :=
    (member place).upsertOverride_spec layer scope value expiresAt up
  have ended : (world.perform place (layer.upsertOverride scope value expiresAt)).2 = later :=
    congrArg Prod.snd performs
  rw [ended] at keepsUp laterPlain ⊢
  rcases cases with ⟨error, unread, _⟩ | ⟨event, keyed, invalidates⟩
  · have written := coherent.overrides.readable.upsert id scope value expiryPlain plainYear
    obtain ⟨override, decoded⟩ := written.1.decode
    exact absurd (unread.symm.trans decoded) nofun
  · have announces := announces_of_invalidates invalidates
    rw [speaks] at announces
    refine coherent.announce announces keepsUp plainYear laterPlain
      (coherent.overrides.upsert id scope value expiryPlain plainYear)
      (fun _ only => (OverrideTable.hasOnly_upsert_iff.mp only).1) ?_
    intro entry different
    exact entry.sameRow_upsert id value expiresAt _ (keyed ▸ different)

private theorem clearOverride (scope : Scope)
    (keepsUp : (world.perform place (layer.clearOverride scope)).2.bus.KeepsUp)
    (laterPlain : (world.perform place (layer.clearOverride scope)).2.calendar.HasPlainYear) :
    IsCoherent topic (world.perform place (layer.clearOverride scope)).2 := by
  obtain ⟨outcome, later, event, performs, keyed, invalidates⟩ :=
    (member place).clearOverride_spec layer scope up
  have ended : (world.perform place (layer.clearOverride scope)).2 = later :=
    congrArg Prod.snd performs
  rw [ended] at keepsUp laterPlain ⊢
  have announces := announces_of_invalidates invalidates
  rw [speaks] at announces
  refine coherent.announce announces keepsUp plainYear laterPlain
    (coherent.overrides.softDelete scope plainYear)
    (fun _ => OverrideTable.hasOnly_softDelete_iff.mp) ?_
  intro entry different
  exact entry.sameRow_softDelete _ (keyed ▸ different)

end Writes

section Reads

/-- A read that leaves all fresh entries fresh keeps the invariant. -/
private theorem reading {α β : Type} {operation : Operation β} {found : Except ServiceError β}
    {later : World} {seen : α → Prop} {cacheKey : String} {text : α → String}
    (coherent : IsCoherent topic world)
    (listens : (listener? world place).isSome)
    (performs : Operation.perform (member place).handle operation world = (found, later))
    (leaves : (member place).Quiet world later ∨
      ∃ value, seen value ∧ (member place).Fills cacheKey (text value) world later)
    (own : ∀ entry : Entry, entry.IsApart world.database →
      entry.IsFresh world.database (world.held place entry.cacheKey) →
        entry.IsFresh later.database (later.held place entry.cacheKey)) :
    IsCoherent topic (world.perform place operation).2 := by
  have ended : (world.perform place operation).2 = later := congrArg Prod.snd performs
  rw [ended]
  rcases leaves with quiet | ⟨_, _, fills⟩
  · exact coherent.read quiet.frame quiet.database listens own
  · exact coherent.read fills.frame fills.database listens own

variable (layer : Layer)
  (coherent : IsCoherent topic world)
  (up : (member place).isUp world)
  (listens : (listener? world place).isSome)

include coherent up listens

private theorem getFlag (environment key : String) :
    IsCoherent topic (world.perform place (layer.getFlag environment key)).2 := by
  obtain ⟨found, later, performs, _, leaves⟩ :=
    (member place).getFlag_spec layer environment key up
  exact coherent.reading listens performs leaves fun entry apart =>
    entry.isFresh_of_getFlag apart leaves

private theorem getOverrideAt (scope : Scope) (now : Instant) :
    IsCoherent topic (world.perform place (layer.getOverrideAt scope now)).2 := by
  obtain ⟨found, later, performs, _, leaves⟩ :=
    (member place).getOverrideAt_spec layer scope now up
  exact coherent.reading listens performs leaves fun entry apart =>
    entry.isFresh_of_getOverride coherent.overrides.sound apart leaves

private theorem getOverride (scope : Scope) :
    IsCoherent topic (world.perform place (layer.getOverride scope)).2 := by
  obtain ⟨found, later, performs, _, leaves⟩ := (member place).getOverride_spec layer scope up
  exact coherent.reading listens performs leaves fun entry apart =>
    entry.isFresh_of_getOverride coherent.overrides.sound apart leaves

end Reads

/-- Every operation keeps the invariant. -/
theorem work {state : Instance} {task : Task}
    (coherent : IsCoherent topic world)
    (present : world.instances[place]? = some state)
    (regular : task.IsRegular)
    (listens : task.isRead = true → (listener? world place).isSome)
    (plainYear : world.calendar.HasPlainYear)
    (keepsUp :
      (world.perform place (task.operation state.service.layer)).2.bus.KeepsUp)
    (laterPlain :
      (world.perform place (task.operation state.service.layer)).2.calendar.HasPlainYear) :
    IsCoherent topic (world.perform place (task.operation state.service.layer)).2 := by
  have up : (member place).isUp world :=
    ⟨state, present, coherent.attached.working place state present⟩
  have speaks := coherent.attached.speaks place state present
  cases task with
  | getFlag environment key => exact coherent.getFlag _ up (listens rfl) environment key
  | getOverride scope => exact coherent.getOverride _ up (listens rfl) scope
  | getOverrideAt scope now => exact coherent.getOverrideAt _ up (listens rfl) scope now
  | writeFlag write expected =>
      exact coherent.writeFlag up speaks plainYear write expected keepsUp laterPlain
  | upsertOverride scope value expiresAt =>
      exact coherent.upsertOverride up speaks plainYear scope value regular keepsUp laterPlain
  | clearOverride scope =>
      exact coherent.clearOverride up speaks plainYear scope keepsUp laterPlain

private theorem listen (coherent : IsCoherent topic world) (place : Nat) :
    IsCoherent topic (world.listen place) := by
  cases present : world.instances[place]? with
  | none =>
      unfold World.listen
      rw [present]
      exact coherent
  | some state =>
      cases deaf : state.listener with
      | none =>
          obtain ⟨admits, attached⟩ := admits_listen coherent.attached present deaf
          exact coherent.welcome admits attached
      | some index =>
          unfold World.listen
          simp only [present, deaf]
          exact coherent

private theorem join (coherent : IsCoherent topic world) {settings : InstanceSettings}
    (onTopic : settings.topic = topic) :
    IsCoherent topic (world.addInstance settings) := by
  have silent {settings : InstanceSettings}
      (onTopic : settings.topic = topic)
      (deaf : settings.listens = false) :
      IsCoherent topic (world.addInstance settings) := by
    obtain ⟨admits, attached⟩ := admits_addInstance coherent.attached onTopic deaf
    exact coherent.welcome admits attached
  cases listens : settings.listens with
  | false => exact silent onTopic listens
  | true =>
      have deaf : IsCoherent topic (world.addInstance { settings with listens := false }) :=
        silent onTopic rfl
      rw [World.addInstance_eq_listen listens]
      exact deaf.listen _

/-- Every move keeps the invariant. -/
theorem take {move : Move}
    (coherent : IsCoherent topic world)
    (orderly : move.IsOrderly topic world)
    (plainYear : world.calendar.HasPlainYear)
    (keepsUp : (move.take world).bus.KeepsUp)
    (laterPlain : (move.take world).calendar.HasPlainYear) :
    IsCoherent topic (move.take world) := by
  cases move with
  | join settings => exact coherent.join orderly
  | listen place => exact coherent.listen place
  | work place task =>
      obtain ⟨regular, listens⟩ := orderly
      simp only [Move.take] at keepsUp laterPlain ⊢
      cases present : world.instances[place]? with
      | none => exact coherent
      | some state =>
          rw [present] at keepsUp laterPlain
          exact coherent.work present regular listens plainYear keepsUp laterPlain
  | deliver place =>
      rcases delivers coherent.attached place with nothing | ⟨event, delivers, attached⟩
      · simp only [Move.take, nothing]
        exact coherent
      · exact coherent.deliver delivers attached
  | pass milliseconds calendar => exact coherent.pass _ orderly

end IsCoherent

/-- Every world that a run reaches keeps the invariant. -/
theorem Reachable.isCoherent {start : World}
    (reachable : Reachable topic start world)
    (coherent : IsCoherent topic start)
    (plainYear : start.calendar.HasPlainYear) :
    IsCoherent topic world ∧ world.calendar.HasPlainYear := by
  induction reachable with
  | start => exact ⟨coherent, plainYear⟩
  | move move _ orderly keepsUp laterPlain inductionHypothesis =>
      obtain ⟨stillCoherent, stillPlain⟩ := inductionHypothesis
      exact ⟨stillCoherent.take orderly stillPlain keepsUp laterPlain, laterPlain⟩

private theorem IsCoherent.fresh (coherent : IsCoherent topic world)
    (caughtUp : waiting world place = [])
    (entry : Entry)
    (apart : entry.IsApart world.database) :
    entry.IsFresh world.database (world.held place entry.cacheKey) := by
  rcases coherent.covered place entry apart with fresh | ⟨event, waits, _⟩
  · exact fresh
  · rw [caughtUp] at waits
    cases waits

/--
In every world that a run of a cluster reaches, an instance for which no event waits reads
through its cache exactly what the store has at that instant, whatever others did and
whatever is still on the way to them: every flag with valid names, and every scope that the
cache tells from those with a row, at an instant that is written as it is.
-/
theorem caught_up_reads_eq_store_reads
    {start : World}
    (noInstances : start.instances = [])
    (flags : start.database.flags.IsReadable start.calendar)
    (overrides : start.database.overrides.IsRegular)
    (plainYear : start.calendar.HasPlainYear)
    (reachable : Reachable topic start world)
    {state : Instance}
    (present : world.instances[place]? = some state)
    (caughtUp : waiting world place = []) :
    (∀ environment key, ValidNames environment key →
      (world.perform place (state.service.layer.getFlag environment key)).1 =
        world.database.flags.read environment key) ∧
    ∀ scope : Scope, world.database.overrides.HasOnly scope.IsToldFrom →
      (world.calendar.IsShown →
        (world.perform place (state.service.layer.getOverride scope)).1 =
          world.database.overrides.find scope world.calendar) ∧
      ∀ now : Instant, now.IsStorable →
        (world.perform place (state.service.layer.getOverrideAt scope now)).1 =
          world.database.overrides.find scope now := by
  obtain ⟨coherent, stillPlain⟩ :=
    reachable.isCoherent (.of_no_instances noInstances flags overrides) plainYear
  have up : (member place).isUp world :=
    ⟨state, present, coherent.attached.working place state present⟩
  refine ⟨?_, ?_⟩
  · intro environment key valid
    obtain ⟨found, later, performs, gives, _⟩ :=
      (member place).getFlag_spec state.service.layer environment key up
    have fresh := coherent.fresh caughtUp (.flag environment key) valid
    exact (congrArg Prod.fst performs).trans (gives fresh)
  · intro scope apart
    have fresh := coherent.fresh caughtUp (.override scope) apart
    refine ⟨?_, ?_⟩
    · intro isShown
      obtain ⟨found, later, performs, gives, _⟩ :=
        (member place).getOverride_spec state.service.layer scope up
      exact (congrArg Prod.fst performs).trans (gives (fresh _ ⟨stillPlain, isShown⟩))
    · intro now nowStorable
      obtain ⟨found, later, performs, gives, _⟩ :=
        (member place).getOverrideAt_spec state.service.layer scope now up
      exact (congrArg Prod.fst performs).trans (gives (fresh now nowStorable))

namespace Peers

/-- A write of the flag that both instances use. -/
def write (enabledDefault : Bool) : FlagWrite where
  environment := "prod"
  key := "beta.search"
  enabledDefault := enabledDefault
  rules := []
  lastEditorId := some "u1"

/-- A database without rows, before one of two instances raises what the other has cached. -/
def start : World where
  calendar := .mayDay

/-- One instance writes a flag and the other, which heard of it, reads it. -/
def cached : World :=
  takeAll [.join {}, .join {}, .work 0 (.writeFlag (write false) none), .deliver 1,
    .work 1 (.getFlag "prod" "beta.search")] start

/-- The first writes again. -/
def raised : World :=
  (Move.work 0 (.writeFlag (write true) (some 1))).take cached

/-- The other takes the news. -/
def told : World :=
  (Move.deliver 1).take raised

private theorem reachable_told : Reachable Invalidation.defaultTopic start told := by
  have reachable : Reachable Invalidation.defaultTopic start cached :=
    Reachable.start.takeAll (by decide +kernel)
  have orderly : AreOrderly Invalidation.defaultTopic
      [.work 0 (.writeFlag (write true) (some 1)), .deliver 1] cached := by
    decide +kernel
  exact reachable.takeAll orderly

end Peers

/-- The second instance holds the first version until it takes the news of the next one. -/
theorem caught_up_reads_eq_store_reads_peer :
    Reachable Invalidation.defaultTopic Peers.start Peers.told ∧
      (Peers.raised.held 1 (flagCacheKey "prod" "beta.search")).isSome ∧
        (waiting Peers.raised 1).length = 1 ∧ waiting Peers.told 1 = [] ∧
          ∃ state flag, Peers.told.instances[1]? = some state ∧
            (Peers.told.perform 1 (state.service.layer.getFlag "prod" "beta.search")).1 =
                .ok (some flag) ∧
              flag.version = 2 := by
  have caughtUp : waiting Peers.told 1 = [] := by decide +kernel
  obtain ⟨state, present⟩ : ∃ state, Peers.told.instances[1]? = some state :=
    Option.isSome_iff_exists.mp (by decide +kernel)
  have reads := (caught_up_reads_eq_store_reads rfl (FlagTable.isReadable_empty _)
    OverrideTable.isRegular_empty (by decide) Peers.reachable_told present caughtUp).1
      "prod" "beta.search" (by decide)
  have stored :
      (Peers.told.database.flags.read "prod" "beta.search").toOption.join.map Flag.version =
        some 2 := by
    decide +kernel
  obtain ⟨flag, isFlag, version⟩ := Option.map_eq_some_iff.mp stored
  refine ⟨Peers.reachable_told, by decide +kernel, by decide +kernel, caughtUp, state, flag,
    present, reads.trans ?_, version⟩
  cases read : Peers.told.database.flags.read "prod" "beta.search" with
  | error error =>
      rw [read] at isFlag
      cases isFlag
  | ok found =>
      rw [read] at isFlag
      exact congrArg Except.ok isFlag

namespace Strangers

/-- A database without rows, in the morning of a day that ends with a leap second. -/
def start : World where
  calendar := .startOf .leapDay

/-- A scope whose override ends late on that day. -/
def scope : Scope :=
  ⟨"prod", "beta.search", .user, "u1"⟩

/-- One instance writes two overrides, and the other reads both after it has heard of them. -/
def cached : World :=
  takeAll [.join {}, .join {}, .work 0 (.upsertOverride .cutKey true none),
    .work 0 (.upsertOverride scope true (some .fifthSecond)), .deliver 1, .deliver 1,
    .work 1 (.getOverride .cutKey), .work 1 (.getOverride scope)] start

/-- The clock comes to a leap second within a minute. -/
def late : World :=
  (Move.pass 0 .withinMinute).take cached

/-- What the second instance reads of a scope, and what the store has, where neither fails. -/
def answers (world : World) (scope : Scope) :
    Option (Option OverrideValue) × Option (Option OverrideValue) :=
  ((world.perform 1 (Layer.getOverride {} scope)).1.toOption,
    (world.database.overrides.find scope world.calendar).toOption)

end Strangers

/--
An instance for which no event waits answers a scope with valid names with the override of
another that is cached under its key.  Once the clock has come to a leap second within a
minute, it answers a scope with an override that has expired.
-/
theorem caught_up_reads_ne_store_reads :
    Reachable Invalidation.defaultTopic Strangers.start Strangers.cached ∧
      waiting Strangers.cached 1 = [] ∧ Scope.cutHolder.HasValidNames ∧
      Strangers.answers Strangers.cached .cutHolder = (some (some ⟨true, none⟩), some none) ∧
      Reachable Invalidation.defaultTopic Strangers.start Strangers.late ∧
      waiting Strangers.late 1 = [] ∧ Strangers.scope.HasValidNames ∧
      Strangers.answers Strangers.late Strangers.scope =
        (some (some ⟨true, some .fifthSecond⟩), some none) := by
  have reachable :
      Reachable Invalidation.defaultTopic Strangers.start Strangers.cached :=
    Reachable.start.takeAll (by decide +kernel)
  have orderly : AreOrderly Invalidation.defaultTopic [.pass 0 .withinMinute]
      Strangers.cached := by
    decide +kernel
  exact ⟨reachable, by decide +kernel, by decide, by decide +kernel, reachable.takeAll orderly,
    by decide +kernel, by decide, by decide +kernel⟩

end Switchboard.Cluster
