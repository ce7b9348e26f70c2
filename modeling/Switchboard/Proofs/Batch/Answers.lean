import Switchboard.Proofs.Batch.Apart
import Switchboard.Proofs.Batch.Calls
import Switchboard.Proofs.Batch.FreshEntries
import Switchboard.Proofs.Deployment.Room

namespace Switchboard

/-!
# Batches agree with their keys

Where the rows stay as they are and the clock stands still, each key of a batch is answered as
if it had been asked for alone, unless one key makes the cache give up what it has for another.
What was given up is read from the store instead, so this shows where the cache had an answer
that the store no longer has.
-/

namespace Evaluator

variable {evaluator : Evaluator} {environment : String} {environment? : Option String}
variable {keys : List String} {context : Context}

/-- What is not valid is refused, and nothing is asked for. -/
private theorem exists_refuses_of_not_isValid
    (invalid : ¬IsValid (environment?.getD evaluator.defaultEnvironment) keys) :
    ∃ cause, Refuses (environment?.getD evaluator.defaultEnvironment) keys cause ∧
      ∀ schedule context, (evaluator.evaluateAlong schedule environment? keys context).run =
        .done (.error (.validation cause)) := by
  cases checked : check (environment?.getD evaluator.defaultEnvironment) keys with
  | ok value => exact absurd (check_eq_ok_iff.mp checked) invalid
  | error cause =>
      have refuses := check_eq_error_iff.mp checked
      exact ⟨cause, refuses, run_of_refuses refuses⟩

/-- It makes no difference in which order and how often valid keys are requested. -/
private theorem evaluateAlong_congr {others : List String}
    (valid : IsValid (environment?.getD evaluator.defaultEnvironment) keys)
    (same : ∀ key, key ∈ others ↔ key ∈ keys) (schedule : List String) (context : Context) :
    evaluator.evaluateAlong schedule environment? others context =
      evaluator.evaluateAlong schedule environment? keys context := by
  obtain ⟨key, member⟩ := List.exists_mem_of_ne_nil keys valid.keys_ne_nil
  have othersValid : IsValid (environment?.getD evaluator.defaultEnvironment) others := {
    keys_ne_nil := List.ne_nil_of_mem ((same key).mpr member)
    environment := valid.environment
    keys := fun other isOther => valid.keys other ((same other).mp isOther) }
  have runs := run_of_check (check_eq_ok_iff.mpr othersValid) schedule context
  rw [distinctKeys_congr same] at runs
  exact runs.trans (run_of_check (check_eq_ok_iff.mpr valid) schedule context).symm

section Handled

variable {State : Type} {handler other : (request : Request) → State → request.Reply × State}
variable (valid : IsValid (environment?.getD evaluator.defaultEnvironment) keys)
include valid

/-- The call goes as the resolutions of its keys go among what is asked and replied. -/
private theorem goes_by_keys (schedule : List String) (context : Context) (state : State) :
    let environment := environment?.getD evaluator.defaultEnvironment
    let call := evaluator.evaluateAlong schedule environment? keys context
    let exchanges := call.run.exchanges handler state
    ∃ now : Instant, ⟨.readClock, now⟩ ∈ exchanges ∧
      Joins (fun key => RunsAmong exchanges
          (evaluator.pending environment (context.pinned now) key))
        (distinctKeys keys) (call.perform handler state).1 ∧
      InStep environment context (context.instantAt now) (call.batches handler state)
        (call.perform handler state).1 := by
  intro environment call exchanges
  obtain ⟨ended, inStep, after, made⟩ :=
    joins_of_check handler (check_eq_ok_iff.mpr valid) schedule context state
  refine ⟨_, ?_, ?_, inStep⟩
  · simp [exchanges, call, made]
  · rw [ended]
    simp only [exchanges, call, made]
    exact (runsAmong_joinAlong schedule _ (distinctKeys keys) _).mono fun key _ outcome runs =>
      (runs.behind _).ahead after

/-- What becomes of the records is not noticed. -/
private theorem perform_congr_of_silent (schedule : List String) (context : Context)
    (same : ∀ request : Request, request.IsSilent →
      ∀ state, other request state = handler request state)
    (state : State) :
    ((evaluator.evaluateAlong schedule environment? keys context).perform other state).1 =
      ((evaluator.evaluateAlong schedule environment? keys context).perform handler state).1 := by
  have passed := check_eq_ok_iff.mpr valid
  rw [(joins_of_check other passed schedule context state).1,
    (joins_of_check handler passed schedule context state).1]
  have counts : other (.observeBatch (distinctKeys keys).length) state =
      handler (.observeBatch (distinctKeys keys).length) state :=
    same _ (fun _ is => by cases is) state
  have reads (state : State) : other .readClock state = handler .readClock state :=
    same _ (fun _ is => by cases is) state
  rw [counts, reads]
  exact congrArg Prod.fst (Program.run_of_abides (silent_joinAlong evaluator _ context _ schedule _)
    same _)

end Handled

/-- A key of a valid request has a valid name. -/
private theorem IsValid.names {key : String} (valid : IsValid environment keys)
    (member : key ∈ keys) :
    ValidNames environment key :=
  ⟨isEnvironment_iff.mpr valid.environment, isFlagKey_iff.mpr (valid.keys key member)⟩

/-- The keys of the cache whose entries a call for many keys may look at. -/
def entryKeys (environment : String) (keys : List String) (context : Context) : List String :=
  keys.flatMap fun key => Resolver.tierKeys environment key context.tenantId context.userId

theorem mem_entryKeys {key cacheKey : String} (member : key ∈ keys)
    (isTier : cacheKey ∈ Resolver.tierKeys environment key context.tenantId context.userId) :
    cacheKey ∈ entryKeys environment keys context :=
  List.mem_flatMap.mpr ⟨key, member, isTier⟩

/--
Over tables that stay as they are and entries that agree with them, each key is answered as if
it were resolved alone.
-/
private theorem answers_alone_of_fresh {faults others : CacheFaults} {place : Nat} {site : Site}
    {now calendar : Instant}
    (valid : IsValid (environment?.getD evaluator.defaultEnvironment) keys)
    (up : site.IsUp place)
    (recorded : site.world.database.overrides.IsRecorded calendar)
    (storable : now.IsStorable)
    (flags : ∀ key ∈ keys, (Site.backing faults place).FlagIsFresh site
      (environment?.getD evaluator.defaultEnvironment) key)
    (overrides : ∀ key ∈ keys, ∀ scope ∈ Resolver.tierScopes
        (environment?.getD evaluator.defaultEnvironment) key context.tenantId context.userId,
      (Site.backing faults place).OverrideIsFresh site scope now)
    (schedule : List String) :
    let environment := environment?.getD evaluator.defaultEnvironment
    Joins (fun key outcome =>
        ((evaluator.resolver.resolve environment key context.tenantId context.userId
          context).perform (stopped now (Site.handle others place)) site).1 = outcome)
      (distinctKeys keys)
      ((evaluator.evaluateAlong schedule environment? keys context).perform
        (stopped now (Site.handle faults place)) site).1 := by
  intro environment
  have start (faults : CacheFaults) :
      (Site.backing faults place).Stands site.world.database now
        (entryKeys environment keys context) site := {
    isUp := up
    rows := rfl
    agrees := fun cacheKey member text given => by
      obtain ⟨key, requested, isTier⟩ := List.mem_flatMap.mp member
      exact {
        flag := fun otherEnvironment otherKey flag named same => by
          subst same
          obtain ⟨rfl, rfl⟩ := Resolver.key_of_flagCacheKey_mem named isTier
          exact flags _ requested text flag given
        override := fun scope value named same => by
          subst same
          exact overrides key requested scope
            (Resolver.scope_of_overrideCacheKey_mem (valid.names requested) named isTier)
            text value given } }
  have resolves (context' : Context) {key : String} (member : key ∈ distinctKeys keys) :=
    evaluator.resolver.abides_resolve_still context.tenantId context.userId context' recorded
      storable (valid.names (mem_distinctKeys.mp member))
      fun _ => mem_entryKeys (mem_distinctKeys.mp member)
  have alone {key : String} (member : key ∈ distinctKeys keys) :=
    ((resolves context member).run (fun _ _ stands => stands.serves _)
      (start others)).1
  have together := ((abides_joinAlong schedule
    fun key member => resolves (context.pinned now) member).run
      (fun _ _ stands => stands.serves _)
      (Site.stands_observeBatch (start faults) (distinctKeys keys).length)).1
  rw [(joins_of_check _ (check_eq_ok_iff.mpr valid) schedule context site).1]
  refine Joins.mono together fun key member outcome ended => ?_
  exact (alone member).trans ((Resolver.outcome_pinned _ _ context now).symm.trans ended.symm)

/-! ## A cache with room -/

/-- Resolutions of different keys do not notice one another where the cache has room. -/
private theorem keepsApart_of_hasRoom {backends : Backends} {room : Finset String}
    (valid : IsValid environment keys)
    (answers : ¬backends.Hang)
    (within : ∀ cacheKey ∈ entryKeys environment keys context, cacheKey ∈ room)
    (place : Nat) (now : Instant) :
    let cacheKeys (key : String) :=
      Resolver.tierKeys environment key context.tenantId context.userId
    KeepsApart (stopped now (World.handle place)) (fun key => .about now (cacheKeys key))
      (distinctKeys keys) fun key => World.ReadsAlike place backends room (cacheKeys key) := by
  intro cacheKeys
  have inRoom {key : String} (member : key ∈ distinctKeys keys) :
      ∀ cacheKey ∈ cacheKeys key, cacheKey ∈ room :=
    fun cacheKey isTier => within cacheKey (mem_entryKeys (mem_distinctKeys.mp member) isTier)
  constructor
  · intro key request joint alone member about alike
    refine ⟨alike.reply_eq answers about, ?_, alike.both answers (inRoom member) about⟩
    cases request with
    | readClock => rfl
    | _ => trivial
  · intro key another request joint alone member isAnother different about alike
    exact alike.aside answers (inRoom isAnother) about fun _ isTier =>
      Resolver.not_mem_tierKeys_of_ne (valid.names (mem_distinctKeys.mp isAnother))
        (valid.names (mem_distinctKeys.mp member)) (Ne.symm different) isTier

/-- Where the cache has room, each key is answered as if it were resolved alone. -/
private theorem answers_alone_of_hasRoom {place : Nat} {backends : Backends}
    {room : Finset String} {world : World}
    (valid : IsValid (environment?.getD evaluator.defaultEnvironment) keys)
    (answers : ¬backends.Hang)
    (hasRoom : world.HasRoom place backends room)
    (within : ∀ cacheKey ∈ entryKeys (environment?.getD evaluator.defaultEnvironment) keys context,
      cacheKey ∈ room)
    (schedule : List String) (now : Instant) :
    let environment := environment?.getD evaluator.defaultEnvironment
    Joins (fun key outcome =>
        ((evaluator.resolver.resolve environment key context.tenantId context.userId
          context).perform (stopped now (World.handle place)) world).1 = outcome)
      (distinctKeys keys)
      ((evaluator.evaluateAlong schedule environment? keys context).perform
        (stopped now (World.handle place)) world).1 := by
  intro environment
  have counted := hasRoom.leavesRoom_observeBatch (distinctKeys keys).length
  have apart := keepsApart_of_hasRoom valid answers within place now
  have awaits (key : String) (_ : key ∈ distinctKeys keys) :
      Awaits (stopped now (World.handle place))
        (.about now (Resolver.tierKeys environment key context.tenantId context.userId))
        (World.ReadsAlike place backends room
          (Resolver.tierKeys environment key context.tenantId context.userId))
        ((evaluator.resolver.resolve environment key context.tenantId context.userId
          context).perform (stopped now (World.handle place)) world).1
        (World.handle place (.observeBatch (distinctKeys keys).length) world).2
        (evaluator.pending environment (context.pinned now) key) := {
    abides := evaluator.resolver.abides_resolve_about environment key context.tenantId
      context.userId (context.pinned now) now
    alone := by
      refine ⟨world, ⟨counted.hasRoom, hasRoom, counted.database, fun _ _ => counted.given _⟩, ?_⟩
      exact congrArg Prod.fst (evaluator.resolver.perform_resolve_pinned environment key
        context.tenantId context.userId context (fun _ => rfl) world) }
  rw [(joins_of_check _ (check_eq_ok_iff.mpr valid) schedule context world).1]
  exact apart.joins_joinAlong (distinctKeys_sorted keys).nodup awaits schedule

/--
A call for many keys is refused before anything is read, for what is wrong first; or it answers
each requested key as the resolution of that key by itself goes among what is asked and
replied meanwhile, or fails as one of these does.  One batch of records is in step with the
answers, and what becomes of it is not noticed.  Neither is in which order and how often keys
are requested, nor in which order they are resolved.

While nobody writes and the clock stands still, each answer is the one that its key has when it
is resolved alone, in two cases.  In the first the stores answer, from rows such as statements
leave them, and what the cache has for the requested keys agrees with them; it may then forget
and fail as it likes.  In the second no backend hangs, and the cache has room for its entries
and for those that the call looks at, so that it gives nothing up.
-/
theorem evaluate_agrees_with_resolve (evaluator : Evaluator) (environment? : Option String)
    (keys : List String) (context : Context) :
    let environment := environment?.getD evaluator.defaultEnvironment
    let call (schedule : List String) := evaluator.evaluateAlong schedule environment? keys context
    let own (context : Context) (key : String) :=
      evaluator.resolver.resolve environment key context.tenantId context.userId context
    call [] = evaluator.evaluate environment? keys context ∧
    (¬IsValid environment keys → ∃ cause, Refuses environment keys cause ∧
      ∀ schedule, (call schedule).run = .done (.error (.validation cause))) ∧
    (IsValid environment keys →
      (distinctKeys keys).Pairwise (· < ·) ∧ (∀ key, key ∈ distinctKeys keys ↔ key ∈ keys) ∧
      (∀ schedule others, (∀ key, key ∈ others ↔ key ∈ keys) →
        evaluator.evaluateAlong schedule environment? others context = call schedule) ∧
      (∀ (schedule : List String) {State : Type}
          (handler other : (request : Request) → State → request.Reply × State) (state : State),
        (∃ now : Instant,
          let exchanges := (call schedule).run.exchanges handler state
          ⟨.readClock, now⟩ ∈ exchanges ∧
            Joins (fun key => RunsAmong exchanges (own (context.pinned now) key).run)
              (distinctKeys keys) ((call schedule).perform handler state).1 ∧
            InStep environment context (context.instantAt now)
              ((call schedule).batches handler state) ((call schedule).perform handler state).1) ∧
        ((∀ request : Request, request.IsSilent →
            ∀ state, other request state = handler request state) →
          ((call schedule).perform other state).1 = ((call schedule).perform handler state).1)) ∧
      (∀ (schedule : List String) (faults others : CacheFaults) (place : Nat) (site : Site)
          (now calendar : Instant),
        site.IsUp place → site.world.database.overrides.IsRecorded calendar → now.IsStorable →
        (∀ key ∈ keys, (Site.backing faults place).FlagIsFresh site environment key) →
        (∀ key ∈ keys, ∀ scope ∈
            Resolver.tierScopes environment key context.tenantId context.userId,
          (Site.backing faults place).OverrideIsFresh site scope now) →
        Joins (fun key outcome =>
            ((own context key).perform (stopped now (Site.handle others place)) site).1 = outcome)
          (distinctKeys keys)
          ((call schedule).perform (stopped now (Site.handle faults place)) site).1) ∧
      ∀ (schedule : List String) (place : Nat) (world : World) (now : Instant)
          (backends : Backends) (room : Finset String),
        ¬backends.Hang → world.HasRoom place backends room →
        (∀ cacheKey ∈ entryKeys environment keys context, cacheKey ∈ room) →
        Joins (fun key outcome =>
            ((own context key).perform (stopped now (World.handle place)) world).1 = outcome)
          (distinctKeys keys)
          ((call schedule).perform (stopped now (World.handle place)) world).1) := by
  refine ⟨evaluator.evaluateAlong_nil environment? keys context, fun invalid => ?_,
    fun valid => ⟨distinctKeys_sorted keys, fun _ => mem_distinctKeys, ?_, ?_, ?_, ?_⟩⟩
  · obtain ⟨cause, refuses, refused⟩ := exists_refuses_of_not_isValid invalid
    exact ⟨cause, refuses, fun schedule => refused schedule context⟩
  · exact fun schedule _ same => evaluateAlong_congr valid same schedule context
  · exact fun schedule _ handler other state => ⟨goes_by_keys valid schedule context state,
      fun same => perform_congr_of_silent valid schedule context same state⟩
  · exact fun schedule faults others place site now calendar up recorded storable flags
      overrides => answers_alone_of_fresh valid up recorded storable flags overrides schedule
  · exact fun schedule place world now backends room answers hasRoom within =>
      answers_alone_of_hasRoom valid answers hasRoom within schedule now

namespace Aged

/-- A flag that was on, and is off since somebody wrote it again. -/
def table : FlagTable :=
  (FlagTable.apply (FlagTable.apply {} ⟨"prod", "beta.search", true, [], none⟩ none .mayDay).2
    ⟨"prod", "beta.search", false, [], none⟩ none .mayDay).2

/-- The flag as it was before. -/
def before : Flag where
  environment := "prod"
  key := "beta.search"
  enabledDefault := true
  rules := []
  version := 1
  lastEditorId := none
  createdAt := .mayDay
  updatedAt := .mayDay

/-- One user has another flag. -/
def database : Database where
  flags := table
  overrides :=
    (OverrideTable.upsert {} (.ofNat 1) (.user "prod" "alpha.search" "u1") true none .mayDay).2

/-- An instance whose cache may keep so many entries, one of which is older than its flag. -/
def world (limit : Nat) : World :=
  (World.addInstance { database, calendar := .mayDay } { cacheLimit := limit }).modifyCache 0
    fun cache now => cache.set (flagCacheKey "prod" "beta.search") (Wire.encode before) 30000 now

/-- The flag as it is. -/
def now : Flag :=
  { before with enabledDefault := false, version := 2 }

/-- The override as it is. -/
def granted : OverrideValue :=
  ⟨true, none⟩

/-- The instance with a cache in the hands of an adversary, whose entries are as they should be. -/
def site : Site where
  world := world 1
  contents cacheKey :=
    if cacheKey = flagCacheKey "prod" "beta.search" then some (Wire.encode now)
    else if cacheKey = overrideCacheKey (.user "prod" "alpha.search" "u1") then
      some (Wire.encode granted)
    else none

/-- An evaluator of the instance. -/
def reader : Evaluator :=
  ⟨⟨{}, .propagate⟩, "prod"⟩

/-- The keys that are asked for. -/
def requested : List String :=
  ["beta.search", "alpha.search", "beta.search"]

/-- The user who asks. -/
def asking : Context where
  userId := some "u1"

/-- Four entries are looked at, and the cache has one of them. -/
def room : Finset String :=
  (entryKeys "prod" requested asking).toFinset

theorem isRecorded_database : database.overrides.IsRecorded (Instant.next .mayDay) := by
  have upserted : OverrideTable.Step (fun _ => True) {} .mayDay database.overrides _ :=
    .upsert (.ofNat 1) true none trivial
  exact (OverrideTable.isRecorded_empty .mayDay).step (by decide) upserted

theorem hasRoom_world : (world 4).HasRoom 0 {} room :=
  ⟨_, World.present_modifyInstance rfl _, rfl, by decide +kernel, by decide +kernel,
    by decide +kernel⟩

theorem flagIsFresh_site {faults : CacheFaults} :
    ∀ key ∈ requested, (Site.backing faults 0).FlagIsFresh site "prod" key := by
  have held :
      (site.contents (flagCacheKey "prod" "beta.search")).bind Wire.decode? = some now := by
    decide +kernel
  have nothing : (site.contents (flagCacheKey "prod" "alpha.search")).bind Wire.decode? =
      (none : Option Flag) := by
    decide +kernel
  have beta : (Site.backing faults 0).FlagIsFresh site "prod" "beta.search" :=
    Site.flagIsFresh_of_held fun flag isHeld => by
      cases held.symm.trans isHeld
      decide +kernel
  have alpha : (Site.backing faults 0).FlagIsFresh site "prod" "alpha.search" :=
    Site.flagIsFresh_of_held fun flag isHeld => by cases nothing.symm.trans isHeld
  simp only [requested, List.forall_mem_cons]
  exact ⟨beta, alpha, beta, by simp⟩

theorem overrideIsFresh_site {faults : CacheFaults} :
    ∀ key ∈ requested, ∀ scope ∈ Resolver.tierScopes "prod" key none (some "u1"),
      (Site.backing faults 0).OverrideIsFresh site scope .mayDay := by
  have held : (site.contents
      (overrideCacheKey (.user "prod" "alpha.search" "u1"))).bind Wire.decode? =
        some granted := by
    decide +kernel
  have nothing : (site.contents
      (overrideCacheKey (.user "prod" "beta.search" "u1"))).bind Wire.decode? =
        (none : Option OverrideValue) := by
    decide +kernel
  have alpha : (Site.backing faults 0).OverrideIsFresh site
      (.user "prod" "alpha.search" "u1") .mayDay :=
    Site.overrideIsFresh_of_held fun value isHeld => by
      cases held.symm.trans isHeld
      decide +kernel
  have beta : (Site.backing faults 0).OverrideIsFresh site
      (.user "prod" "beta.search" "u1") .mayDay :=
    Site.overrideIsFresh_of_held fun value isHeld => by cases nothing.symm.trans isHeld
  simp only [requested, List.forall_mem_cons, Resolver.tierScopes, Option.map_some,
    Option.map_none, Option.toList_some, Option.toList_none, List.append_nil]
  exact ⟨⟨beta, by simp⟩, ⟨alpha, by simp⟩, ⟨beta, by simp⟩, by simp⟩

end Aged

set_option maxRecDepth 1000 in
/--
The hypotheses hold of a batch that asks twice for one key: over entries that are as they should
be while most cache calls go wrong, and over an old entry where there is room.
-/
theorem evaluate_agrees_with_resolve_aged :
    IsValid "prod" Aged.requested ∧
    (Aged.site.IsUp 0 ∧
      (Operation.perform (stopped .mayDay (Site.handle .troubled 0))
        (Aged.reader.evaluateAlong ["beta.search", "alpha.search"] none Aged.requested Aged.asking)
        Aged.site).1 =
          .ok [("alpha.search", ⟨true, .userOverride⟩), ("beta.search", ⟨false, .default⟩)] ∧
      (Operation.perform (stopped .mayDay (Site.handle .absent 0))
        (Aged.reader.resolver.resolve "prod" "beta.search" none (some "u1") Aged.asking)
        Aged.site).1 = .ok ⟨false, .default⟩) ∧
    (Aged.world 4).HasRoom 0 {} Aged.room ∧
      (Operation.perform (stopped .mayDay (World.handle 0))
        (Aged.reader.evaluateAlong ["beta.search", "alpha.search"] none Aged.requested Aged.asking)
        (Aged.world 4)).1 =
          .ok [("alpha.search", ⟨true, .userOverride⟩), ("beta.search", ⟨true, .default⟩)] ∧
      (Operation.perform (stopped .mayDay (World.handle 0))
        (Aged.reader.resolver.resolve "prod" "beta.search" none (some "u1") Aged.asking)
        (Aged.world 4)).1 = .ok ⟨true, .default⟩ := by
  have valid : IsValid "prod" Aged.requested := check_eq_ok_iff.mp (by decide)
  have up : Aged.site.IsUp 0 := ⟨_, rfl, rfl, rfl⟩
  have answers : ¬({} : Backends).Hang := by
    rintro (hangs | hangs | hangs | hangs) <;> cases hangs
  have within : ∀ cacheKey ∈ entryKeys "prod" Aged.requested Aged.asking,
      cacheKey ∈ Aged.room :=
    fun _ member => List.mem_toFinset.mpr member
  obtain ⟨_, _, accepted⟩ :=
    evaluate_agrees_with_resolve Aged.reader none Aged.requested Aged.asking
  obtain ⟨_, _, _, _, fresh, roomy⟩ := accepted valid
  have freshly := fresh ["beta.search", "alpha.search"] .troubled .absent 0 Aged.site .mayDay _ up
    Aged.isRecorded_database (by decide) Aged.flagIsFresh_site Aged.overrideIsFresh_site
  have roomily := roomy ["beta.search", "alpha.search"] 0 (Aged.world 4) .mayDay {} Aged.room
    answers Aged.hasRoom_world within
  have answered : (Operation.perform (stopped .mayDay (Site.handle .troubled 0))
      (Aged.reader.evaluateAlong ["beta.search", "alpha.search"] none Aged.requested Aged.asking)
      Aged.site).1 =
        .ok [("alpha.search", ⟨true, .userOverride⟩), ("beta.search", ⟨false, .default⟩)] := by
    decide +kernel
  have answeredOld : (Operation.perform (stopped .mayDay (World.handle 0))
      (Aged.reader.evaluateAlong ["beta.search", "alpha.search"] none Aged.requested Aged.asking)
      (Aged.world 4)).1 =
        .ok [("alpha.search", ⟨true, .userOverride⟩), ("beta.search", ⟨true, .default⟩)] := by
    decide +kernel
  rw [answered] at freshly
  rw [answeredOld] at roomily
  exact ⟨valid, ⟨up, answered, freshly.2 ("beta.search", ⟨false, .default⟩) (by simp)⟩,
    Aged.hasRoom_world, answeredOld, roomily.2 ("beta.search", ⟨true, .default⟩) (by simp)⟩

/--
A cache that may keep one entry gives up the old one when it is filled for another key, and the
batch tells what the store has where the key alone is answered from the cache.
-/
theorem evaluate_ne_resolve_evicted :
    (Operation.perform (stopped .mayDay (World.handle 0))
      (Aged.reader.evaluate none Aged.requested Aged.asking) (Aged.world 1)).1 =
        .ok [("alpha.search", ⟨true, .userOverride⟩), ("beta.search", ⟨false, .default⟩)] ∧
    (Operation.perform (stopped .mayDay (World.handle 0))
      (Aged.reader.resolver.resolve "prod" "beta.search" none (some "u1") Aged.asking)
        (Aged.world 1)).1 =
          .ok ⟨true, .default⟩ := by
  constructor
  · decide +kernel
  · decide +kernel

end Evaluator

end Switchboard
