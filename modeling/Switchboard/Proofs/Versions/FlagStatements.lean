import Switchboard.Proofs.Deployment.Effects
import Switchboard.Proofs.Time.Progress

namespace Switchboard.World

/-!
# Statements on flags

What the requests of a deployment do to the rows of flags: all leave them alone but the
writes that reach the store, and each of those is one application of the table.
-/

/-- A write that applied: what it said, when, the row that it left and its answer. -/
structure Win where
  write : FlagWrite
  expected : Option Int64
  instant : Instant
  row : FlagRow
  reply : Outcome (Option Flag)

namespace Win

/-- Whether a write is one of a flag. -/
def isOf (environment key : String) (win : Win) : Bool :=
  win.write.environment == environment && win.write.key == key

/-- The write of a request that ran on the table of a world and applied. -/
def of? (world : World) (place : Nat) : (request : Request) → request.Reply → Option Win
  | .call (.applyFlagWrite write expected), reply =>
      if (world.instances[place]?.map (·.backends.flags)) = some .working then
        (world.database.flags.apply write expected world.calendar).1.map fun row =>
          ⟨write, expected, world.calendar, row, reply⟩
      else none
  | _, _ => none

end Win

/-- A request leaves the flags alone. -/
def KeepsFlags (before after : World) : Prop :=
  after.database.flags = before.database.flags

private theorem KeepsFlags.of_sameStores {before after : World} (same : SameStores before after) :
    KeepsFlags before after :=
  congrArg Database.flags same.database

/-- An instance changes the flags by no request but a write. -/
theorem keepsFlags_handle (world : World) (place : Nat) (request : Request)
    (noWrite : ∀ write expected, request ≠ .call (.applyFlagWrite write expected)) :
    KeepsFlags world (world.handle place request).2 := by
  have effect := effect_handle world place request
  generalize (world.handle place request).2 = later at effect
  cases effect with
  | wrote write expected => exact absurd rfl (noWrite write expected)
  | hung _ milliseconds _ => exact .of_sameStores (sameStores_advance world milliseconds)
  | nothing => rfl
  | lookedUp cacheKey state present => rfl
  | cached cacheKey text lifetime => rfl
  | dropped cacheKey => rfl
  | published topic event => rfl
  | upserted scope value expiresAt => rfl
  | cleared scope => rfl
  | purged ids now => rfl
  | ticked => rfl
  | counted counter amount => rfl
  | observed keys => rfl
  | logged records state present => rfl

/-- A write does not run where its store fails or hangs. -/
theorem keepsFlags_applyFlagWrite (world : World) (place : Nat)
    (write : FlagWrite) (expected : Option Int64)
    (notWorking : (world.instances[place]?.getD unreachable).backends.flags ≠ .working) :
    KeepsFlags world (world.handle place (.call (.applyFlagWrite write expected))).2 :=
  through_keeps (fun working => absurd working notWorking) fun _ => .of_sameStores

/-- What one request does to the flags: nothing, or it is a write that ran on the table. -/
inductive FlagEffect (world : World) : Option Win → World → Prop where
  | kept {later : World} :
      KeepsFlags world later →
      FlagEffect world none later
  | ran {later : World}
      (write : FlagWrite)
      (expected : Option Int64)
      (reply : Outcome (Option Flag)) :
      reply =
        (match (world.database.flags.apply write expected world.calendar).1 with
        | none => .answered none
        | some row => .ofExcept (row.decode.map some)) →
      later.database.flags = (world.database.flags.apply write expected world.calendar).2 →
      FlagEffect world
        ((world.database.flags.apply write expected world.calendar).1.map fun row =>
          ⟨write, expected, world.calendar, row, reply⟩)
        later

/-- What a request of an instance does to the flags. -/
theorem flagEffect_handle (world : World) (place : Nat) (request : Request) :
    FlagEffect world (Win.of? world place request (world.handle place request).1)
      (world.handle place request).2 := by
  by_cases isWrite : ∃ write expected, request = .call (.applyFlagWrite write expected)
  · obtain ⟨write, expected, rfl⟩ := isWrite
    by_cases working : world.instances[place]?.map (·.backends.flags) = some .working
    · obtain ⟨state, present, healthy⟩ := Option.map_eq_some_iff.mp working
      rw [handle_applyFlagWrite present healthy, Win.of?, if_pos working]
      exact .ran write expected _ rfl rfl
    · rw [Win.of?, if_neg working]
      refine .kept (keepsFlags_applyFlagWrite world place write expected ?_)
      cases present : world.instances[place]? with
      | none =>
          intro impossible
          cases impossible
      | some state =>
          intro healthy
          rw [present] at working
          exact working (congrArg some healthy)
  · have noWin : Win.of? world place request (world.handle place request).1 = none := by
      unfold Win.of?
      split
      · exact absurd ⟨_, _, rfl⟩ isWrite
      · rfl
    rw [noWin]
    exact .kept (keepsFlags_handle world place request fun write expected same =>
      isWrite ⟨write, expected, same⟩)

end Switchboard.World
