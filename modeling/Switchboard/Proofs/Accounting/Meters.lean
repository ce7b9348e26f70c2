import Switchboard.Proofs.Accounting.Accounts
import Switchboard.Proofs.Deployment.Faults
import Switchboard.Proofs.Deployment.Weather

namespace Switchboard

open Accounting

/-!
# Meters

An instance adds to its counters what its operations tell it to count.  Its sink counts the
records and the batches that it loses, of which no account is kept, and nothing else in a
deployment counts anything.
-/

namespace Accounting

variable {State : Type} {handler : (request : Request) → State → request.Reply × State}
  {state : State}

/-- A handler that adds to the counters of its states what it is told to count, and no more. -/
structure Meters
    (handler : (request : Request) → State → request.Reply × State)
    (holds : State → Prop)
    (amount : State → Counter → Nat) : Prop where
  stays : ∀ request state, holds state → holds (handler request state).2
  gains : ∀ request state counter, holds state → counter.family.isAccountable = true →
    amount (handler request state).2 counter =
      amount state counter + gain counter ⟨request, (handler request state).1⟩

/-- The counters have gained what the exchanges of a run add up to. -/
theorem Meters.amount_run {holds : State → Prop} {amount : State → Counter → Nat}
    (meters : Meters handler holds amount) (program : Program α) (began : holds state)
    {counter : Counter} (accountable : counter.family.isAccountable = true) :
    amount (program.run handler state).2 counter =
      amount state counter + total (gain counter) (program.exchanges handler state) := by
  induction program generalizing state with
  | done value => rfl
  | step request resume inductionHypothesis =>
      simp only [Program.run, Program.exchanges, total_cons]
      rw [inductionHypothesis _ (meters.stays request state began),
        meters.gains request state counter began accountable, Nat.add_assoc]

end Accounting

/-! ## Sinks -/

/-- The counters of which accounts are kept stay as they are. -/
def Metrics.CountsAlike (before after : Metrics Nat) : Prop :=
  ∀ counter : Counter, counter.family.isAccountable = true →
    after.amount counter = before.amount counter

namespace Sink

theorem countsAlike_count (output : SinkOutput) {family : CounterFamily} (amount : Nat)
    (quiet : family.isAccountable = false) :
    output.metrics.CountsAlike (output.count family amount).metrics := by
  intro counter accountable
  refine Metrics.amount_add_other _ _ fun same => ?_
  subst same
  rw [quiet] at accountable
  cases accountable

theorem countsAlike_log (sink : Sink) (batch : List Exposure) (output : SinkOutput) :
    output.metrics.CountsAlike (sink.log batch output).2.2.metrics := by
  unfold log
  split
  · exact fun _ _ => rfl
  · split
    · exact fun _ _ => rfl
    · exact countsAlike_count output _ rfl

theorem countsAlike_flush (sink : Sink) (output : SinkOutput) :
    output.metrics.CountsAlike (sink.flush output).2.2.metrics := by
  unfold flush
  split
  · exact fun _ _ => rfl
  · next queue waiting =>
      simp only [SinkOutput.sendChunks_deliver]
      exact countsAlike_count _ _ rfl

theorem countsAlike_settle (sink : Sink) (clock : Nat) (output : SinkOutput) :
    output.metrics.CountsAlike (sink.settle clock output).2.metrics := by
  unfold settle
  split
  · exact countsAlike_flush _ output
  · exact fun _ _ => rfl

end Sink

namespace World

variable {place : Nat} {before after world : World}

/-- The amount of a counter of the instance in a place. -/
def tally? (world : World) (place : Nat) (counter : Counter) : Option Nat :=
  world.instances[place]?.map fun state => state.metrics.amount counter

/-- The instance in a place has counted the same, as far as accounts are kept of it. -/
def SameTally (place : Nat) (before after : World) : Prop :=
  ∀ counter : Counter, counter.family.isAccountable = true →
    after.tally? place counter = before.tally? place counter

namespace SameTally

theorem of_instances (same : after.instances = before.instances) :
    SameTally place before after := by
  intro counter _
  rw [tally?, same, tally?]

theorem refl (world : World) : SameTally place world world :=
  of_instances rfl

theorem trans {first second third : World} (earlier : SameTally place first second)
    (later : SameTally place second third) : SameTally place first third :=
  fun counter accountable => (later counter accountable).trans (earlier counter accountable)

theorem modifyInstance (world : World) (other : Nat) {change : Instance → Instance}
    (alike : ∀ state : Instance, state.metrics.CountsAlike (change state).metrics) :
    SameTally place world (world.modifyInstance other change) := by
  intro counter accountable
  exact map_modifyInstance (fun state => alike state counter accountable) place

theorem putInstance {other : Nat} {state changed : Instance}
    (present : world.instances[other]? = some state)
    (alike : state.metrics.CountsAlike changed.metrics) :
    SameTally place world (world.putInstance other changed) := by
  intro counter accountable
  exact map_putInstance present (alike counter accountable) place

end SameTally

/-! ## Background work -/

/-- Listeners count nothing, and sinks nothing of which an account is kept. -/
theorem SameTally.keptInBackground : KeptInBackground (SameTally place) where
  refl := .refl
  trans := .trans
  listens {world other state} bus _ present := by
    have drained : SameTally place world { world with bus } := .of_instances rfl
    refine drained.trans (.putInstance present fun counter _ => ?_)
    unfold Instance.applyDeliveries
    split <;> rfl
  sends {world other state} present :=
    have handed (delivered : Delivered) : SameTally place world { world with delivered } :=
      .of_instances rfl
    (handed _).trans (.putInstance present (Sink.countsAlike_settle state.sink _ _))

/-- Time passes, and nothing is counted of which an account is kept. -/
theorem sameTally_advance (world : World) (milliseconds : Nat) :
    SameTally place world (world.advance milliseconds) := by
  have ticked : SameTally place world { world with clock := world.clock + milliseconds } :=
    .of_instances rfl
  exact ticked.trans (SameTally.keptInBackground.settle _)

/-! ## Answers -/

/-- An instance counts by no request but the one that tells it to. -/
theorem sameTally_handle (world : World) (asker : Nat) (request : Request)
    (noCount : ∀ counter amount, request ≠ .count counter amount) :
    SameTally place world (world.handle asker request).2 := by
  have effect := effect_handle world asker request
  generalize (world.handle asker request).2 = later at effect
  cases effect with
  | counted counter amount => exact absurd rfl (noCount counter amount)
  | nothing => exact .refl world
  | hung _ milliseconds _ => exact sameTally_advance world milliseconds
  | lookedUp cacheKey state present => exact .putInstance present fun _ _ => rfl
  | cached cacheKey text lifetime => exact .modifyInstance _ _ fun _ _ _ => rfl
  | dropped cacheKey => exact .modifyInstance _ _ fun _ _ _ => rfl
  | published topic event => exact .of_instances rfl
  | wrote write expected => exact .of_instances rfl
  | upserted scope value expiresAt => exact .of_instances rfl
  | cleared scope => exact .of_instances rfl
  | purged ids now => exact .of_instances rfl
  | ticked => exact .of_instances rfl
  | observed keys => exact .modifyInstance _ _ fun _ _ _ => rfl
  | logged records state present =>
      have handed (delivered : Delivered) : SameTally place world { world with delivered } :=
        .of_instances rfl
      exact (handed _).trans (.putInstance present (Sink.countsAlike_log state.sink _ _))

/-- An instance counts what it is told to, and nothing else of which an account is kept. -/
theorem tally_handle (world : World) (place : Nat) (request : Request) {counter : Counter}
    (accountable : counter.family.isAccountable = true) :
    (world.handle place request).2.tally? place counter =
      (world.tally? place counter).map
        (· + gain counter ⟨request, (world.handle place request).1⟩) := by
  cases request with
  | count other amount =>
      simp only [handle, answer, tally?, World.modifyInstance, List.getElem?_modify, if_true, gain]
      cases world.instances[place]? with
      | none => rfl
      | some state =>
          simp only [Option.map_some, Option.map_eq_map, Option.some.injEq]
          split
          · next same =>
              subst same
              exact Metrics.amount_add _ _ _
          · next different => exact Metrics.amount_add_other _ _ (Ne.symm different)
  | _ =>
      rw [sameTally_handle world place _ (fun _ _ same => by cases same) counter accountable]
      cases world.tally? place counter <;> rfl

theorem tally_isSome {counter : Counter} :
    (world.tally? place counter).isSome = true ↔ place < world.instances.length := by
  rw [tally?, Option.isSome_map, isSome_getElem?]

theorem sameTally_turn (world : World) (other : Nat) (backends : Backends) :
    SameTally place world (world.turn other backends) :=
  .modifyInstance world other fun _ _ _ => rfl

/-- What the instance in a place has counted, where there is one. -/
def tally (place : Nat) (state : World × Nat) (counter : Counter) : Nat :=
  (state.1.tally? place counter).getD 0

/-- An instance meters its operations, whatever its backends do at each request. -/
theorem meters_handleIn (weather : Nat → Backends) (place : Nat) :
    Meters (handleIn weather place) (fun state => place < state.1.instances.length)
      (tally place) where
  stays request state present := by
    have accountable : (lookupCounter .flag .hit).family.isAccountable = true := rfl
    have turned : (state.1.turn place (weather state.2)).tally? place (lookupCounter .flag .hit) =
        state.1.tally? place (lookupCounter .flag .hit) := sameTally_turn _ _ _ _ accountable
    rw [← @tally_isSome _ _ (lookupCounter .flag .hit)] at present ⊢
    rw [handleIn, tally_handle _ _ _ accountable, Option.isSome_map, turned]
    exact present
  gains request state counter present accountable := by
    have turned : (state.1.turn place (weather state.2)).tally? place counter =
        state.1.tally? place counter := sameTally_turn _ _ _ _ accountable
    obtain ⟨amount, tallied⟩ :=
      Option.isSome_iff_exists.mp ((@tally_isSome _ _ counter).mpr present)
    simp only [tally, handleIn, tally_handle _ _ _ accountable, turned, tallied,
      Option.map_some, Option.getD_some]

/-! ## Verdicts -/

/-- A fault of a backend is no verdict. -/
theorem IsFault.not_isGivenBy {error : ServiceError} (fault : IsFault error) (verdict : Verdict) :
    verdict.isGivenBy error = false := by
  cases verdict with
  | conflict => exact fault.isConflict
  | refusal => exact fault.isForbidden

/-- The backends of an instance give no verdicts. -/
theorem failsBy_of_mem_exchanges {weather : Nat → Backends} {program : Program α}
    {state : World × Nat} {exchange : Exchange} (verdict : Verdict)
    (member : exchange ∈ program.exchanges (handleIn weather place) state) :
    exchange.FailsBy fun error => verdict.isGivenBy error = false := by
  induction program generalizing state with
  | done value => cases member
  | step request resume inductionHypothesis =>
      rcases List.mem_cons.mp member with rfl | later
      · intro error brought
        exact (isFault_handle _ place request brought).not_isGivenBy verdict
      · exact inductionHypothesis _ later

end World

end Switchboard
