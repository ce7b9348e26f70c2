import Switchboard.Proofs.Coherence.Invariant
import Switchboard.Proofs.Deployment.Reachable
import Switchboard.Proofs.Layer.Changes
import Switchboard.Proofs.Staleness.Fills

namespace Switchboard.Staleness

open Cluster (Move)
open Layer (Task)

/-!
# Runs and their moments

Instances over the same stores do one operation after the other, in any order, while the
clocks run on and invalidations come late or never.  A run keeps all its moments: the
worlds between its events, among them what the store had at every instant.
-/

/-- One thing that happens to instances over the same stores. -/
inductive Event where
  | move (move : Move)
  | sweep (place : Nat) (now : Instant) (limit : Nat)
  /-- Whatever becomes of the invalidations that are under way. -/
  | lose (bus : Bus)

namespace Event

/-- The world after an event. -/
def take (event : Event) (world : World) : World :=
  match event with
  | .move step => step.take world
  | .sweep place now limit =>
      match world.instances[place]? with
      | none => world
      | some _ => (world.perform place (Layer.sweep now limit)).2
  | .lose bus => { world with bus }

/-- Overrides are written under valid names, and the calendar does not go back. -/
def IsOrderly (world : World) : Event → Prop
  | .move (.work _ (.upsertOverride scope _ _)) => scope.HasValidNames
  | .move (.pass _ calendar) => world.calendar ≤ calendar
  | _ => True

end Event

/-- The runs from a world, with their moments so far, the last one first. -/
inductive Run (start : World) : List World → World → Prop where
  | start : Run start [] start
  | next {past : List World} {world : World} (event : Event) :
      Run start past world → event.IsOrderly world → (event.take world).calendar.IsStorable →
        Run start (world :: past) (event.take world)

variable {start world : World} {past : List World}

/-! ## Where runs lead -/

private theorem reachable_take {event : Event} (reachable : World.Reachable start world)
    (orderly : event.IsOrderly world)
    (storable : (event.take world).calendar.IsStorable) :
    World.Reachable start (event.take world) := by
  cases event with
  | sweep place now limit =>
      show World.Reachable start (match world.instances[place]? with
        | none => world
        | some _ => (world.perform place (Layer.sweep now limit)).2)
      cases world.instances[place]? with
      | none => exact reachable
      | some state => exact reachable.perform place _
  | lose bus => exact reachable.lose bus
  | move step =>
      cases step with
      | join settings => exact reachable.join settings
      | listen place => exact reachable.listen place
      | deliver place => exact reachable.deliver place
      | pass milliseconds calendar =>
          exact reachable.pass milliseconds calendar orderly storable.isShown
      | work place task =>
          show World.Reachable start (match world.instances[place]? with
            | none => world
            | some state => (world.perform place (task.operation state.service.layer)).2)
          cases world.instances[place]? with
          | none => exact reachable
          | some state => exact reachable.perform place _

theorem Run.reachable (run : Run start past world) : World.Reachable start world := by
  induction run with
  | start => exact .start
  | next event _ orderly storable inductionHypothesis =>
      exact reachable_take inductionHypothesis orderly storable

/-- A moment of a run is where a shorter run led, and the run went on from there. -/
theorem Run.of_moment (run : Run start past world) {moment : World} (isPast : moment ∈ past) :
    (∃ earlier, Run start earlier moment) ∧ World.Reachable moment world := by
  induction run with
  | start => cases isPast
  | @next past world event before orderly storable inductionHypothesis =>
      rcases List.mem_cons.mp isPast with rfl | isEarlier
      · exact ⟨⟨past, before⟩, reachable_take .start orderly storable⟩
      · obtain ⟨shorter, goesOn⟩ := inductionHypothesis isEarlier
        exact ⟨shorter, reachable_take goesOn orderly storable⟩

/-- All calendars of a run are storable. -/
theorem Run.storable (run : Run start past world) (startStorable : start.calendar.IsStorable) :
    world.calendar.IsStorable := by
  cases run with
  | start => exact startStorable
  | next event _ _ storable => exact storable

/-! ## The names of rows -/

/-- Nothing fails, and all rows have valid names. -/
private def IsNamed (world : World) : Prop :=
  world.IsWorking ∧ world.database.overrides.HasOnly Scope.HasValidNames

/-- No override is written but for a scope with valid names. -/
private def namingTerms : Terms where
  asks request := ∀ scope value expiresAt,
    request = .call (.upsertOverride scope value expiresAt) → scope.HasValidNames
  gives _ _ := True

private theorem letsInquire_namingTerms : namingTerms.LetsInquire := by
  rintro _ inquiry scope value expiresAt rfl
  cases inquiry

private theorem letsFollowUp_namingTerms : namingTerms.LetsFollowUp := by
  rintro _ followUp scope value expiresAt rfl
  cases followUp

private theorem letsFill_namingTerms (layer : Layer) : namingTerms.LetsFill layer where
  flags _ _ _ _ _ _ _ same := by cases same
  overrides _ _ _ _ _ _ _ same := by cases same

/-- What abides by these terms leaves valid names. -/
private theorem IsNamed.perform {place : Nat} {operation : Operation α}
    {ends : Except ServiceError α → Prop} (named : IsNamed world)
    (abides : operation.Abides namingTerms ends) :
    IsNamed (world.perform place operation).2 := by
  refine (abides.run (fun request between named asks => ⟨trivial, ?_⟩) named).2
  exact ⟨named.1.handle place request, named.2.step (World.step_handle named.1 place request asks)⟩

/-- Tasks leave valid names where they write none but valid ones. -/
private theorem IsNamed.task {place : Nat} {task : Task} (named : IsNamed world)
    (orderly : Event.IsOrderly world (.move (.work place task))) (layer : Layer) :
    IsNamed (world.perform place (task.operation layer)).2 := by
  have inquires := letsInquire_namingTerms
  have followsUp := letsFollowUp_namingTerms
  have fills := letsFill_namingTerms layer
  have wrong := Terms.GoesWrongBy.anyhow namingTerms
  cases task with
  | getFlag environment key =>
      exact named.perform (Layer.getFlag_failing inquires fills wrong environment key)
  | getOverride scope => exact named.perform (Layer.getOverride_failing inquires fills wrong scope)
  | getOverrideAt scope now =>
      exact named.perform (Layer.abides_getOverrideAt inquires (fun _ _ _ _ => failsOnlyBy_ok _)
        (fun _ given => wrong.call given _) (fills.overrides scope now))
  | writeFlag write expected =>
      exact named.perform (Layer.writeFlag_failing followsUp wrong fun _ _ _ same => by cases same)
  | upsertOverride scope value expiresAt =>
      refine named.perform (Layer.upsertOverride_failing followsUp wrong ?_)
      rintro _ _ _ same
      cases same
      exact orderly
  | clearOverride scope =>
      exact named.perform
        (Layer.clearOverride_failing followsUp wrong fun _ _ _ same => by cases same)

private theorem hasValidNames_take {event : Event} (working : world.IsWorking)
    (orderly : event.IsOrderly world)
    (named : world.database.overrides.HasOnly Scope.HasValidNames) :
    (event.take world).database.overrides.HasOnly Scope.HasValidNames := by
  have isNamed : IsNamed world := ⟨working, named⟩
  cases event with
  | lose bus => exact named
  | sweep place now limit =>
      simp only [Event.take]
      split
      · exact named
      · exact (isNamed.perform (Layer.sweep_failing (.anyhow namingTerms)
          (fun _ _ _ same => by cases same) fun _ _ _ _ same => by cases same)).2
  | move step =>
      cases step with
      | join settings => exact named
      | listen place =>
          simp only [Event.take, Move.take, (world.rows_listen place).1]
          exact named
      | deliver place =>
          simp only [Event.take, Move.take, (world.rows_deliver place).1]
          exact named
      | pass milliseconds calendar => exact named
      | work place task =>
          simp only [Event.take, Move.take]
          split
          · exact named
          · exact (isNamed.task orderly _).2

/-- All rows of a run have valid names. -/
theorem Run.hasValidNames (run : Run start past world)
    (began : start.IsWorking) (noRows : start.database.overrides = {}) :
    world.database.overrides.HasOnly Scope.HasValidNames := by
  induction run with
  | start =>
      rw [noRows]
      exact OverrideTable.hasOnly_empty
  | next event before orderly _ inductionHypothesis =>
      exact hasValidNames_take (before.reachable.isWorking began) orderly inductionHypothesis

end Switchboard.Staleness
