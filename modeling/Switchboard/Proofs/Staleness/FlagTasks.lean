import Switchboard.Proofs.Staleness.FlagCopies
import Switchboard.Proofs.Validity.Runs

namespace Switchboard.Staleness

open Guarding (IsFree LetsServe Task)

/-!
# Tasks in any weather

A task that writes no flag leaves the flags as they are while it fills the cache, so that its
fills can be dated at its end.  A task that writes one fills nothing.
-/

variable {past : List World} {world later next : World} {place : Nat} {service : Service}
variable {weather : Nat → Backends}

/-! ## Tasks that leave the flags alone -/

/-- The store did not answer, since it was out of reach. -/
def IsOutOfReach (weather : Nat → Backends) (reply : Outcome α) : Prop :=
  ∃ count,
    (weather count).flags = .failing ∧ reply = .failed World.storeRefusal ∨
      (weather count).flags = .hanging ∧ reply = .timedOut

/--
A task fills the cache with overrides and with what the store has of flags.  It is given what
the store has, or had within the last lifetime.
-/
def readingTerms (past : List World) (world : World) (layer : Layer) (weather : Nat → Backends) :
    Terms where
  asks
    | .call (.cacheSet cacheKey text lifetime) =>
        lifetime = layer.lifetime ∧
          ((∃ scope, cacheKey = overrideCacheKey scope) ∨
            ∃ environment key flag, cacheKey = flagCacheKey environment key ∧
              world.database.flags.read environment key = .ok (some flag) ∧
                text = Wire.encode flag)
    | .call (.applyFlagWrite ..) => False
    | _ => True
  gives
    | .call (.cacheGet cacheKey), reply =>
        ∀ text environment key flag, reply = .answered (some text) →
          cacheKey = flagCacheKey environment key → Wire.decode? text = some flag →
            ReadWithin layer.lifetime (world :: past) world.clock environment key (.ok (some flag))
    | .call (.readFlag environment key), reply =>
        reply = .ofExcept (world.database.flags.read environment key) ∨
          IsOutOfReach weather reply
    | _, _ => True

private theorem asks_of_isFree {layer : Layer} {request : Request} (free : IsFree request) :
    (readingTerms past world layer weather).asks request := by
  unfold readingTerms
  dsimp only
  split
  · exact free.elim
  · exact free.elim
  · trivial

/-- What the store gave may be cached, and stays within the terms. -/
private theorem letsFill_readingTerms (layer : Layer) :
    (readingTerms past world layer weather).LetsFill layer where
  flags environment key flag given := by
    refine ⟨rfl, .inr ⟨environment, key, flag, rfl, ?_, rfl⟩⟩
    rcases given with read | ⟨_, ⟨_, out⟩ | ⟨_, out⟩⟩
    · exact Outcome.answered_eq_ofExcept_iff.mp read
    · cases out
    · cases out
  overrides scope _ _ _ := ⟨rfl, .inl ⟨scope, rfl⟩⟩

private theorem letsServe_readingTerms (past : List World) (world : World) (service : Service)
    (weather : Nat → Backends) :
    LetsServe (readingTerms past world service.layer weather) service fun _ => True where
  free _ free := asks_of_isFree free
  fills := letsFill_readingTerms service.layer
  upserts _ _ _ _ := trivial
  wrong := .anyhow _
  forbidden _ := trivial

private theorem abides_of_isNoWrite (past : List World) (world : World) (service : Service)
    (weather : Nat → Backends) {task : Task}
    (noWrite : ∀ write expected, task ≠ .writeFlag write expected) :
    (task.operation service).Abides (readingTerms past world service.layer weather)
      (FailsOnlyBy fun _ => True) :=
  Task.abides (letsServe_readingTerms past world service weather) task
    (fun write expected isWrite => absurd isWrite (noWrite write expected))
    fun _ _ => trivial

/-- The store was out of reach, and a read of a flag says so. -/
def SaysOutOfReach (weather : Nat → Backends) (answer : Except ServiceError (Option Flag)) : Prop :=
  ∃ count,
    (weather count).flags = .failing ∧ answer = .error World.storeRefusal ∨
      (weather count).flags = .hanging ∧ answer = .error (.timeout "flag lookup")

/-- A read of a flag answers what was read within the last lifetime, if at all. -/
theorem abides_getFlag {layer : Layer} (environment key : String) :
    (layer.getFlag environment key).Abides (readingTerms past world layer weather) fun answer =>
      ReadWithin layer.lifetime (world :: past) world.clock environment key answer ∨
        SaysOutOfReach weather answer := by
  have inquires : (readingTerms past world layer weather).LetsInquire := by
    intro request inquiry
    exact asks_of_isFree (Guarding.isFree_of_isInquiry inquiry)
  refine Layer.abides_getFlag inquires ?_ ?_ ((letsFill_readingTerms layer).flags environment key)
  · intro text flag given decoded
    exact .inl (given text environment key flag rfl rfl decoded)
  · intro reply given
    rcases given with rfl | ⟨count, ⟨health, rfl⟩ | ⟨health, rfl⟩⟩
    · rw [Outcome.toExcept_ofExcept]
      exact .inl ⟨world, List.mem_cons_self, Nat.le_refl _, Nat.le_add_right _ _, rfl⟩
    · exact .inr ⟨count, .inl ⟨health, rfl⟩⟩
    · exact .inr ⟨count, .inr ⟨health, rfl⟩⟩

/-- How far a task has come that leaves the flags alone. -/
structure IsReading (past : List World) (world : World) (place : Nat) (service : Service)
    (later : World) : Prop where
  flags : later.database.flags = world.database.flags
  clock : world.clock ≤ later.clock
  present : ∃ state, later.instances[place]? = some state ∧ state.service = service
  explained : AreExplained (later :: world :: past) later

namespace IsReading

private theorem start (chronicle : IsChronicle past world) {state : Instance}
    (present : world.instances[place]? = some state) :
    IsReading past world place state.service world where
  flags := rfl
  clock := Nat.le_refl _
  present := ⟨state, present, rfl⟩
  explained := chronicle.explained.mono (.of_subset (List.subset_cons_self _ _))

/-- What goes on without a write of a flag is explained where all that it adds is. -/
private theorem carry {added : Nat → String → CacheEntry → Prop}
    (reading : IsReading past world place service later)
    (continues : World.Continues added later next)
    (flags : next.database.flags = later.database.flags)
    (adds : ∀ other cacheKey entry, added other cacheKey entry → other = place ∧
      IsExplained (next :: world :: past) service.layer.lifetime cacheKey entry) :
    IsReading past world place service next := by
  obtain ⟨state, present, same⟩ := reading.present
  obtain ⟨changed, isPresent, isSame⟩ := continues.services place state present
  refine {
    flags := flags.trans reading.flags
    clock := Nat.le_trans reading.clock continues.clock
    present := ⟨changed, isPresent, isSame.trans same⟩
    explained := reading.explained.carry (.of_last flags continues.clock) continues ?_ }
  intro other otherState otherPresent cacheKey entry isNew
  obtain ⟨rfl, explained⟩ := adds other cacheKey entry isNew
  cases isPresent.symm.trans otherPresent
  rwa [isSame, same]

private theorem turn (reading : IsReading past world place service later) (backends : Backends) :
    IsReading past world place service (later.turn place backends) :=
  reading.carry (later.continues_turn place backends) rfl fun _ _ _ impossible => impossible.elim

/-- A request that is asked for leaves the flags alone, and its fill can be dated. -/
private theorem handle (reading : IsReading past world place service later) {request : Request}
    (asks : (readingTerms past world service.layer weather).asks request) :
    IsReading past world place service (later.handle place request).2 := by
  have flags := World.keepsFlags_handle later place request fun write expected same => by
    rw [same] at asks
    exact asks
  have continues := later.continues_handle place request
  refine reading.carry continues flags fun other cacheKey entry set => ?_
  obtain ⟨here, lifetime, rfl, deadline⟩ := set
  obtain ⟨rfl, isFill⟩ := asks
  refine ⟨here, isFill.imp_right ?_⟩
  rintro ⟨environment, key, flag, isKey, read, isText⟩
  have clock := continues.clock
  refine ⟨_, List.mem_cons_self, by omega, environment, key, flag, isKey, ?_, isText⟩
  rw [flags, reading.flags]
  exact read

/--
What a lookup gives now was read within the last lifetime before the task; a copy that the task
has made itself was right before the task too.
-/
private theorem readWithin (reading : IsReading past world place service later)
    (chronicle : IsChronicle past world)
    {text environment key : String} {flag : Flag}
    (given : (later.handle place (.call (.cacheGet (flagCacheKey environment key)))).1 =
      .answered (some text))
    (decoded : Wire.decode? text = some flag) :
    ReadWithin service.layer.lifetime (world :: past) world.clock environment key
      (.ok (some flag)) := by
  obtain ⟨entry, held, rfl, live⟩ := World.entry_of_cacheGet given
  obtain ⟨state, present, rfl⟩ := reading.present
  have explained := reading.explained place state present _ entry held
  have valid : ∀ moment ∈ later :: world :: past, ∀ row ∈ moment.database.flags.rows,
      row.IsValid := by
    rw [List.forall_mem_cons, reading.flags]
    exact ⟨(chronicle.valid world List.mem_cons_self).flags, fun moment isMoment =>
      (chronicle.valid moment isMoment).flags⟩
  obtain ⟨moment, isMoment, bound, read⟩ := explained.read_of_decoded valid decoded
  rcases List.mem_cons.mp isMoment with rfl | isOld
  · rw [reading.flags] at read
    exact ⟨world, List.mem_cons_self, Nat.le_refl _, Nat.le_add_right _ _, read⟩
  · have clock := reading.clock
    exact ⟨moment, isOld, chronicle.ordered moment isOld, by omega, read⟩

/-- The store gives what it has, unless it is out of reach. -/
private theorem readFlag (reading : IsReading past world place service later)
    (count : Nat) (environment key : String) :
    let reply := ((later.turn place (weather count)).handle place
      (.call (.readFlag environment key))).1
    reply = .ofExcept (world.database.flags.read environment key) ∨ IsOutOfReach weather reply := by
  intro reply
  obtain ⟨state, present, _⟩ := reading.present
  have turned : (later.turn place (weather count)).instances[place]? =
      some { state with backends := weather count } := by
    unfold World.turn World.modifyInstance
    rw [List.getElem?_modify_eq, present]
    rfl
  have replies : reply = ((later.turn place (weather count)).through (weather count).flags
      state.timeout World.storeRefusal fun world =>
        (world.database.flags.read environment key, world)).1 :=
    congrArg Prod.fst (World.handle_eq turned (.call (.readFlag environment key)))
  cases health : (weather count).flags with
  | working =>
      rw [World.through_working health] at replies
      rw [← reading.flags]
      exact .inl replies
  | failing =>
      rw [health] at replies
      exact .inr ⟨count, .inl ⟨health, replies⟩⟩
  | hanging =>
      rw [health] at replies
      exact .inr ⟨count, .inr ⟨health, replies⟩⟩

/-- The world keeps its side of the terms. -/
private theorem serves (reading : IsReading past world place service later)
    (chronicle : IsChronicle past world)
    {request : Request}
    (asks : (readingTerms past world service.layer weather).asks request)
    (count : Nat) :
    let answered := (later.turn place (weather count)).handle place request
    (readingTerms past world service.layer weather).gives request answered.1 ∧
      IsReading past world place service answered.2 := by
  have turned := reading.turn (weather count)
  refine ⟨?_, turned.handle asks⟩
  unfold readingTerms
  dsimp only
  split
  · intro text environment key flag given isKey decoded
    subst isKey
    exact turned.readWithin chronicle given decoded
  · exact reading.readFlag count _ _
  · trivial

end IsReading

/-- An operation within the terms ends as it should, and all that it fills can be dated. -/
theorem IsChronicle.performIn_reading (chronicle : IsChronicle past world) {state : Instance}
    (present : world.instances[place]? = some state)
    {operation : Operation α} {ends : Except ServiceError α → Prop}
    (abides : operation.Abides (readingTerms past world state.service.layer weather) ends) :
    ends (world.performIn weather place operation).1 ∧
      IsReading past world place state.service (world.performIn weather place operation).2 :=
  abides.performIn _
    (fun _ _ count reading asks => reading.serves chronicle asks count)
    (.start chronicle present)

/-! ## Writes of flags -/

/-- A task fills nothing. -/
def writingTerms : Terms where
  asks
    | .call (.cacheSet ..) => False
    | _ => True
  gives _ _ := True

private theorem abides_writeFlag (write : FlagWrite) (expected : Option Int64) :
    (service.writeFlag write expected).Abides writingTerms (FailsOnlyBy fun _ => True) := by
  have followsUp : writingTerms.LetsFollowUp := by
    intro request followUp
    unfold writingTerms
    dsimp only
    split
    · exact followUp.elim
    · trivial
  refine Operation.abides_bind (Operation.abides_require ?_ ?_)
  · intro _
    exact Layer.writeFlag_failing followsUp (.anyhow writingTerms) trivial
  · intro cause refused
    exact failsOnlyBy_error trivial

/-- All entries after a write were there before. -/
private theorem explained_writeFlag {moments : List World} (explained : AreExplained moments world)
    (write : FlagWrite) (expected : Option Int64) :
    let later := (world.performIn weather place (service.writeFlag write expected)).2
    world.clock ≤ later.clock ∧ AreExplained moments later := by
  have stands : StandIn moments moments := .of_subset (List.Subset.refl _)
  refine ((abides_writeFlag write expected).performIn
    (fun later => world.clock ≤ later.clock ∧ AreExplained moments later) ?_
    ⟨Nat.le_refl _, explained⟩).2
  rintro request later count ⟨clock, still⟩ asks
  have turned := later.continues_turn place (weather count)
  have handled := (later.turn place (weather count)).continues_handle place request
  refine ⟨trivial, Nat.le_trans clock (turned.prepend handled).clock, ?_⟩
  refine (still.carry_nothing stands turned).carry stands handled ?_
  intro other state present cacheKey entry set
  obtain ⟨_, _, rfl, _⟩ := set
  exact asks.elim

/-! ## All tasks -/

/-- All entries after a task are explained, now that its end is one of the moments. -/
private theorem explained_task (chronicle : IsChronicle past world) {state : Instance}
    (present : world.instances[place]? = some state) (task : Task) (weather : Nat → Backends) :
    let later := (world.performIn weather place (task.operation state.service)).2
    world.clock ≤ later.clock ∧ AreExplained (later :: world :: past) later := by
  by_cases isWrite : ∃ write expected, task = .writeFlag write expected
  · obtain ⟨write, expected, rfl⟩ := isWrite
    obtain ⟨clock, explained⟩ := explained_writeFlag chronicle.explained write expected
    exact ⟨clock, explained.mono (.of_subset (List.subset_cons_self _ _))⟩
  · have noWrite (write : FlagWrite) (expected : Option Int64) :
        task ≠ .writeFlag write expected :=
      fun same => isWrite ⟨write, expected, same⟩
    have abides := abides_of_isNoWrite past world state.service weather noWrite
    have reading := (chronicle.performIn_reading present abides).2
    exact ⟨reading.clock, reading.explained⟩

/-- Rows stay valid in any weather. -/
private theorem isValid_task (valid : world.database.IsValid) (place : Nat) (service : Service)
    (task : Task) (weather : Nat → Backends) :
    (world.performIn weather place (task.operation service)).2.database.IsValid := by
  have abides := Guarding.Job.abides ⟨place, service, task⟩
  refine (abides.performIn (fun later => later.database.IsValid) ?_ valid).2
  intro request later count stillValid proper
  have turned : (later.turn place (weather count)).database.IsValid := stillValid
  exact ⟨fun _ brought => Guarding.uncomplaining_handle _ place request brought,
    World.isValid_handle turned place proper⟩

/-- A chronicle goes on with what keeps the rows valid and the entries explained. -/
theorem IsChronicle.extend (chronicle : IsChronicle past world)
    (valid : next.database.IsValid)
    (clock : world.clock ≤ next.clock)
    (explained : AreExplained (next :: world :: past) next) :
    IsChronicle (world :: past) next where
  valid moment isMoment := by
    rcases List.mem_cons.mp isMoment with rfl | isOld
    · exact valid
    · exact chronicle.valid moment isOld
  ordered moment isMoment := by
    rcases List.mem_cons.mp isMoment with rfl | isOld
    · exact Nat.le_refl _
    · exact Nat.le_trans (chronicle.ordered moment isOld) clock
  explained := explained

/-- A chronicle goes on with any task in any weather. -/
theorem IsChronicle.work (chronicle : IsChronicle past world) {state : Instance}
    (present : world.instances[place]? = some state) (task : Task) (weather : Nat → Backends) :
    IsChronicle (world :: past)
      (world.performIn weather place (task.operation state.service)).2 := by
  obtain ⟨clock, explained⟩ := explained_task chronicle present task weather
  exact chronicle.extend
    (isValid_task (chronicle.valid world List.mem_cons_self) place state.service task weather)
    clock explained

end Switchboard.Staleness
