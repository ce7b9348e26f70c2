import Switchboard.Proofs.Deployment.Reachable
import Switchboard.Proofs.Staleness.FlagTasks

namespace Switchboard.Staleness

open Guarding (Happening Task)

/-!
# Bounded staleness of flags

Instances over the same stores do one task after the other, in any order and any weather,
while the clocks run on and invalidations come late or never.  What an instance answers to a
read of a flag the store itself would have answered at some moment, no longer than a lifetime
ago, however often the copy was read or made anew meanwhile.
-/

/-- One thing that happens to instances over the same stores. -/
inductive Occurrence where
  | join (settings : InstanceSettings)
  | listen (place : Nat)
  | deliver (place : Nat)
  /-- The clocks run on, and nothing else does. -/
  | pass (milliseconds : Nat) (calendar : Instant)
  /-- A task is done as a whole, and before each of its requests the backends may turn. -/
  | work (place : Nat) (task : Task) (weather : Nat → Backends)
  | meanwhile (happening : Happening)

/-- The world after an occurrence. -/
def Occurrence.take (occurrence : Occurrence) (world : World) : World :=
  match occurrence with
  | join settings => world.addInstance settings
  | listen place => world.listen place
  | deliver place => world.deliver place
  | pass milliseconds calendar => { world with clock := world.clock + milliseconds, calendar }
  | work place task weather =>
      match world.instances[place]? with
      | none => world
      | some state => (world.performIn weather place (task.operation state.service)).2
  | meanwhile happening => happening.take world

/-- The courses of events from a world, with their moments so far, the last one first. -/
inductive Course (start : World) : List World → World → Prop where
  | start : Course start [] start
  | next {past : List World} {world : World} (occurrence : Occurrence) :
      Course start past world → Course start (world :: past) (occurrence.take world)

variable {start world : World} {past : List World}

/-! ## What happens besides tasks -/

/-- The rows stay, and no entry is new. -/
structure Idles (before after : World) : Prop where
  database : after.database = before.database
  continues : World.Continues World.nothing before after

private theorem Idles.refl (world : World) : Idles world world :=
  ⟨rfl, .of_instances (Nat.le_refl _) rfl⟩

private theorem idles_happening (happening : Happening) :
    Idles world (happening.take world) where
  database := happening.database_take world
  continues := by
    cases happening with
    | wait milliseconds => exact world.continues_advance milliseconds
    | pass calendar => exact .of_instances (Nat.le_refl _) rfl
    | listen place => exact .of_holds (World.Holds.keptInBackground.drainListener world place)
    | send place => exact .of_holds (World.Holds.keptInBackground.settleSink world place)
    | shutdown place =>
        have stopped : World.Holds World.nothing world (world.modifyInstance place fun state =>
            { state with sink := state.sink.shutdown }) :=
          .modifyInstance_ages world place (fun _ => rfl) fun _ => .refl _
        exact .of_holds (stopped.prepend (World.Holds.keptInBackground.settle _))
    | turn place backends => exact world.continues_turn place backends
    | lose bus => exact .of_instances (Nat.le_refl _) rfl

/-! ## Courses -/

theorem IsChronicle.idle {later : World} (chronicle : IsChronicle past world)
    (idles : Idles world later) :
    IsChronicle (world :: past) later := by
  refine chronicle.extend ?_ idles.continues.clock ?_
  · rw [idles.database]
    exact chronicle.valid world List.mem_cons_self
  · exact chronicle.explained.carry_nothing (.of_subset (List.subset_cons_self _ _))
      idles.continues

theorem IsChronicle.take (chronicle : IsChronicle past world) (occurrence : Occurrence) :
    IsChronicle (world :: past) (occurrence.take world) := by
  cases occurrence with
  | join settings => exact chronicle.idle ⟨rfl, world.continues_addInstance settings⟩
  | listen place =>
      exact chronicle.idle ⟨(world.rows_listen place).1, world.continues_listen place⟩
  | deliver place =>
      exact chronicle.idle ⟨(world.rows_deliver place).1, .of_holds (world.holds_deliver place)⟩
  | pass milliseconds calendar =>
      exact chronicle.idle ⟨rfl, .of_instances (Nat.le_add_right _ _) rfl⟩
  | meanwhile happening => exact chronicle.idle (idles_happening happening)
  | work place task weather =>
      unfold Occurrence.take
      dsimp only
      split
      · exact chronicle.idle (.refl world)
      · rename_i state present
        exact chronicle.work present task weather

/-- Every course from valid rows and no instances is a chronicle. -/
theorem Course.isChronicle (course : Course start past world)
    (noInstances : start.instances = [])
    (valid : start.database.IsValid) :
    IsChronicle past world := by
  induction course with
  | start =>
      refine { valid := ?_, ordered := ?_, explained := ?_ }
      · simpa using valid
      · simp
      · intro place state present
        rw [noInstances, List.getElem?_nil] at present
        cases present
  | next occurrence _ inductionHypothesis => exact inductionHypothesis.take occurrence

/-- Occurrences in any order make a course. -/
theorem Course.exists_foldl (course : Course start past world) (occurrences : List Occurrence) :
    ∃ moments, Course start moments
      (occurrences.foldl (fun world occurrence => occurrence.take world) world) := by
  induction occurrences generalizing past world with
  | nil => exact ⟨past, course⟩
  | cons occurrence rest inductionHypothesis => exact inductionHypothesis (course.next occurrence)

/-! ## The answers -/

namespace Missed

/-- A database without rows. -/
def empty : World where
  calendar := Instant.mayDay

/-- A write that turns the flag on or off. -/
def write (enabledDefault : Bool) : FlagWrite where
  environment := "prod"
  key := "beta.search"
  enabledDefault
  rules := []
  lastEditorId := none

/-- All backends work at every request. -/
def fair (_ : Nat) : Backends :=
  {}

/-- The cache of the instance and the bus are out of reach. -/
def stormy (_ : Nat) : Backends :=
  { cache := .failing, bus := .failing }

/--
One of two instances turns a flag off and reads it, and after twenty seconds the other reads
it too.  The first then turns the flag on, but can neither drop its copy nor tell of the write.
-/
def occurrences : List Occurrence := [
  .join {},
  .join {},
  .work 0 (.writeFlag (write false) none) fair,
  .work 0 (.getFlag "prod" "beta.search") fair,
  .pass 20000 Instant.mayDay,
  .work 1 (.getFlag "prod" "beta.search") fair,
  .work 0 (.writeFlag (write true) none) stormy,
  .pass 5000 Instant.mayDay]

/-- The world after all that. -/
def latest : World :=
  occurrences.foldl (fun world occurrence => occurrence.take world) empty

/-- Whether the flag is on by default. -/
def isOn (answer : Except ServiceError (Option Flag)) : Option Bool :=
  answer.toOption.join.map Flag.enabledDefault

end Missed

end Switchboard.Staleness
