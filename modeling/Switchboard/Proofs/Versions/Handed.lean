import Switchboard.Proofs.CacheKeys
import Switchboard.Proofs.Guarding.Replays
import Switchboard.Proofs.Interleaving.ShownVersions
import Switchboard.Proofs.Validity.Runs

namespace Switchboard

/-!
# Versions that were handed out

A flag comes to a job out of the store or out of a cache, which was filled out of the store.  So
in every run of jobs, whatever fails meanwhile, the stored version of a flag is at least every
version of it that a job has seen or that a cache still holds.
-/

namespace FlagTable

variable {table : FlagTable} {environment key : String}

/-- The row of a flag, if it has one, has a version of one or more. -/
def IsNumbered (table : FlagTable) (environment key : String) : Prop :=
  ∀ row, table.row? environment key = some row → 0 < row.version

/-- A flag is stored with a version or a later one. -/
def Reaches (table : FlagTable) (environment key : String) (version : Int) : Prop :=
  ∃ row, table.row? environment key = some row ∧ version ≤ row.version

/-- What a write leaves counts on from what was stored, or from one. -/
private theorem pos_written {stored : Option FlagRow} (write : FlagWrite) (now : Instant)
    (numbered : ∀ row, stored = some row → 0 < row.version) :
    0 < (written stored write now).version := by
  cases stored with
  | none => exact Int.one_pos
  | some row =>
      have positive := numbered row rfl
      simp only [written, FlagRow.overwritten, FlagRow.raised]
      split
      · omega
      · exact positive

theorem IsNumbered.apply (numbered : table.IsNumbered environment key) (write : FlagWrite)
    (expected : Option Int64) (now : Instant) :
    (table.apply write expected now).2.IsNumbered environment key := by
  intro row found
  by_cases here : write.environment = environment ∧ write.key = key
  · obtain ⟨rfl, rfl⟩ := here
    by_cases accepted : applies (table.row? write.environment write.key) expected = true
    · have applied := apply_accepted now accepted
      have stored := row_apply_self applied
      rw [applied] at found
      rw [stored] at found
      cases found
      exact pos_written write now numbered
    · rw [apply_rejected now accepted] at found
      exact numbered row found
  · rw [row_apply_other here] at found
    exact numbered row found

theorem IsNumbered.isCounted (numbered : table.IsNumbered environment key) :
    Interleaving.IsCounted environment key table :=
  fun row found => Int.le_of_lt (numbered row found)

end FlagTable

namespace World

variable {world : World} {environment key : String}

theorem isNumbered_handle (place : Nat) (request : Request)
    (numbered : world.database.flags.IsNumbered environment key) :
    (world.handle place request).2.database.flags.IsNumbered environment key := by
  have effect := flagEffect_handle world place request
  generalize Win.of? world place request (world.handle place request).1 = win? at effect
  generalize (world.handle place request).2 = later at effect ⊢
  cases effect with
  | kept same =>
      have sameFlags : later.database.flags = world.database.flags := same
      exact sameFlags ▸ numbered
  | ran write expected reply _ same =>
      rw [same]
      exact numbered.apply write expected world.calendar

theorem reaches_handle {version : Int} (place : Nat) (request : Request)
    (numbered : world.database.flags.IsNumbered environment key)
    (reaches : world.database.flags.Reaches environment key version) :
    (world.handle place request).2.database.flags.Reaches environment key version := by
  obtain ⟨row, found, notLower⟩ := reaches
  obtain ⟨_, later, foundLater, grown⟩ :=
    (Interleaving.advances_handle place numbered.isCounted request).grows row found
  exact ⟨later, foundLater, Int.le_trans notLower grown⟩

end World

namespace Guarding

open Interleaving (Entry Shows past past_append mem_past)

variable {environment key : String}

/-! ## What jobs are handed -/

/-- An exchange in which a flag was handed out, by a cache or by the store. -/
inductive Hands (environment key : String) : Exchange → Flag → Prop where
  | looked (text : String) (flag : Flag) :
      Wire.decode? text = some flag →
      Hands environment key
        ⟨.call (.cacheGet (flagCacheKey environment key)), .answered (some text)⟩ flag
  | shown {exchange : Exchange} {flag : Flag} :
      Shows environment key exchange flag →
      Hands environment key exchange flag

/-- Terms by which a program caches no flag but one that it read, as its exchanges tell. -/
def recallingTerms (exchanges : List Exchange) : Terms where
  asks request := ∀ cacheKey text lifetime, request = .call (.cacheSet cacheKey text lifetime) →
    (∃ scope, cacheKey = overrideCacheKey scope) ∨
      ∃ environment key flag, cacheKey = flagCacheKey environment key ∧
        text = Wire.encode flag ∧
          ⟨.call (.readFlag environment key), .answered (some flag)⟩ ∈ exchanges
  gives request reply := ⟨request, reply⟩ ∈ exchanges

theorem letsServe_recalling (exchanges : List Exchange) (service : Service) :
    LetsServe (recallingTerms exchanges) service fun _ => True where
  free := by
    intro request free cacheKey text lifetime same
    subst same
    cases free
  fills := {
    flags := by
      intro environment key flag given _ _ _ same
      cases same
      exact .inr ⟨environment, key, flag, rfl, rfl, given⟩
    overrides := by
      intro scope now value _ _ _ _ same
      cases same
      exact .inl ⟨scope, rfl⟩ }
  upserts _ _ _ _ _ _ _ same := by cases same
  wrong := .anyhow _
  forbidden _ := trivial

/-- What is left of a job caches no flag but one that the job has read. -/
theorem Job.abides_recalling (job : Job) (exchanges : List Exchange) :
    job.operation.Abides (recallingTerms exchanges) fun _ => True := by
  have abides : job.operation.Abides (recallingTerms exchanges) (FailsOnlyBy fun _ => True) := by
    refine Task.abides (letsServe_recalling exchanges job.service) job.task ?_ fun _ _ => trivial
    intro write expected isWrite passed cacheKey text lifetime same
    cases same
  exact abides.mono fun _ _ => trivial

/-! ## Runs -/

/-- Nothing is cached but for a caller. -/
theorem Happening.held_take {happening : Happening} {world : World} {place : Nat}
    {cacheKey text : String}
    (held : (happening.take world).held place cacheKey = some text) :
    world.held place cacheKey = some text := by
  rcases happening.sameStores_take world with same | ⟨other, backends, rfl⟩
  · exact same.losing _ _ _ held
  · rcases World.held_or_changed held with old | ⟨_, state, present, turned⟩
    · exact old
    · exact (World.held_of_present present cacheKey).trans turned

variable {jobs : Nat → Job} {log : List Entry} {floor : Floor jobs}

/-- A flag is stored with every version of it that a job has seen or that a cache holds. -/
structure HandedOut (environment key : String) (log : List Entry) (floor : Floor jobs) : Prop where
  numbered : floor.world.database.flags.IsNumbered environment key
  seen : ∀ entry ∈ log, ∀ flag, Hands environment key entry.exchange flag →
    floor.world.database.flags.Reaches environment key flag.version.toInt
  held : ∀ place text (flag : Flag),
    floor.world.held place (flagCacheKey environment key) = some text →
      Wire.decode? text = some flag →
        floor.world.database.flags.Reaches environment key flag.version.toInt
  leads : ∀ number,
    (jobs number).operation.run.Leads (past log number) (floor.programs number)

namespace HandedOut

theorem opening (jobs : Nat → Job) {start : World}
    (empty : ∀ place cacheKey, start.held place cacheKey = none)
    (numbered : start.database.flags.IsNumbered environment key) :
    HandedOut environment key [] (.opening jobs start) where
  numbered := numbered
  seen _ member := by cases member
  held place text flag held := by
    have nothing : (Floor.opening jobs start).world.held place (flagCacheKey environment key) =
        none :=
      empty place _
    cases nothing.symm.trans held
  leads number := .here _

/-- What an exchange hands out is stored, and stays stored. -/
private theorem reaches_of_hands {place : Nat} {request : Request} {flag : Flag}
    (handed : HandedOut environment key log floor)
    (hands :
      Hands environment key ⟨request, (floor.world.handle place request).1⟩ flag) :
    (floor.world.handle place request).2.database.flags.Reaches environment key
      flag.version.toInt := by
  generalize exchanged :
    (⟨request, (floor.world.handle place request).1⟩ : Exchange) = exchange at hands
  cases hands with
  | looked text flag decoded =>
      simp only [Exchange.mk.injEq] at exchanged
      obtain ⟨rfl, answered⟩ := exchanged
      have held := World.held_of_answered (eq_of_heq answered)
      exact World.reaches_handle place _ handed.numbered (handed.held place text flag held decoded)
  | shown shows =>
      subst exchanged
      exact (Interleaving.advances_handle place handed.numbered.isCounted request).shows flag shows

/-- What a job caches for a flag with uncut names it has seen. -/
private theorem reaches_of_fills {number : Nat} {text : String} {lifetime : Nat} {flag : Flag}
    {next : (Request.call (.cacheSet (flagCacheKey environment key) text lifetime)).Reply →
      Program (Except ServiceError (jobs number).task.Answer)}
    (uncut : UncutNames environment key)
    (handed : HandedOut environment key log floor)
    (waiting : floor.programs number =
      .step (.call (.cacheSet (flagCacheKey environment key) text lifetime)) next)
    (decoded : Wire.decode? text = some flag) :
    floor.world.database.flags.Reaches environment key flag.version.toInt := by
  have left := (handed.leads number).abides
    ((jobs number).abides_recalling (past log number)) fun _ member => member
  rw [waiting] at left
  rcases left.1 _ _ _ rfl with ⟨scope, same⟩ | ⟨otherEnvironment, otherKey, old, same, rfl, read⟩
  · exact absurd same (flagCacheKey_ne_overrideCacheKey environment key scope)
  · obtain ⟨rfl, rfl⟩ := (flagCacheKey_inj_of_uncut uncut).mp same.symm
    rw [FaithfulWire.decode_encode] at decoded
    cases decoded
    exact handed.seen _ (mem_past.mp read) old (.shown (.read old))

theorem meanwhile (handed : HandedOut environment key log floor) (happening : Happening) :
    HandedOut environment key log { floor with world := happening.take floor.world } := by
  have same : (happening.take floor.world).database.flags = floor.world.database.flags :=
    congrArg Database.flags (happening.database_take floor.world)
  refine ⟨?_, ?_, ?_, handed.leads⟩
  · simpa only [same] using handed.numbered
  · simpa only [same] using handed.seen
  · intro place text flag held decoded
    simpa only [same] using handed.held place text flag (Happening.held_take held) decoded

theorem take (uncut : UncutNames environment key) (handed : HandedOut environment key log floor)
    (turn : Turn) :
    HandedOut environment key (log ++ (turn.take floor).1) (turn.take floor).2 := by
  have leads (number : Nat) :
      (jobs number).operation.run.Leads (past (log ++ (turn.take floor).1) number)
        ((turn.take floor).2.programs number) := by
    rw [past_append]
    exact (handed.leads number).trans (leads_take turn floor number)
  cases turn with
  | meanwhile happening => simpa [Turn.take] using handed.meanwhile happening
  | resume number =>
      cases waiting : floor.programs number with
      | done outcome => simpa [Turn.take, waiting] using handed
      | step request next =>
          simp only [Turn.take, waiting] at leads ⊢
          refine ⟨World.isNumbered_handle _ request handed.numbered, ?_, ?_, leads⟩
          · intro entry member flag hands
            rcases List.mem_append.mp member with before | now
            · exact World.reaches_handle _ request handed.numbered
                (handed.seen entry before flag hands)
            · cases List.mem_singleton.mp now
              exact handed.reaches_of_hands hands
          · intro place text flag held decoded
            refine World.reaches_handle _ request handed.numbered ?_
            rcases (floor.world.keepsCaches_handle (jobs number).place request).held place _ text
              held with before | ⟨_, lifetime, rfl⟩
            · exact handed.held place text flag before decoded
            · exact reaches_of_fills uncut handed waiting decoded

theorem takeTurns (uncut : UncutNames environment key)
    (handed : HandedOut environment key log floor) (turns : List Turn) :
    HandedOut environment key (log ++ (takeTurns turns floor).1) (takeTurns turns floor).2 := by
  induction turns generalizing log floor with
  | nil => simpa [Guarding.takeTurns] using handed
  | cons turn rest inductionHypothesis =>
      simpa [Guarding.takeTurns, List.append_assoc] using
        inductionHypothesis (handed.take uncut turn)

end HandedOut

/-- What every request leaves true of the flags stays true. -/
theorem flags_takeTurns (holds : FlagTable → Prop)
    (kept : ∀ (world : World) place request, holds world.database.flags →
      holds (world.handle place request).2.database.flags)
    (turns : List Turn)
    (floor : Floor jobs)
    (began : holds floor.world.database.flags) :
    holds (takeTurns turns floor).2.world.database.flags := by
  induction turns generalizing floor with
  | nil => exact began
  | cons turn rest inductionHypothesis =>
      refine inductionHypothesis _ ?_
      cases turn with
      | meanwhile happening =>
          exact congrArg Database.flags (happening.database_take floor.world) ▸ began
      | resume number =>
          cases waiting : floor.programs number with
          | done outcome => simpa only [Turn.take, waiting] using began
          | step request next =>
              simpa only [Turn.take, waiting] using kept floor.world _ request began

end Guarding

end Switchboard
