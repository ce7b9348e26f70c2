import Switchboard.Deployment.World
import Switchboard.Layer
import Switchboard.Proofs.Layer.Performing
import Switchboard.Proofs.Store.Flags

namespace Switchboard

/-!
# What cached storage relies on

The operations of the layer see the world only through the replies to their requests.
A backing says what those replies may be: the stores answer from their tables, and the
cache gives for a key nothing but a text that it may give.  Nothing is said about when
the cache forgets, fails or is late, so every law holds of a cache that does all of it.

Main statements: one for each operation, of what it gives and of the state behind it.
-/

/-- Whether nobody who asks for a key can read a text. -/
def IsUnreadable (cacheKey text : String) : Prop :=
  (∀ environment key, cacheKey = flagCacheKey environment key →
      Wire.decode? (α := Flag) text = none) ∧
    ∀ scope, cacheKey = overrideCacheKey scope → Wire.decode? (α := OverrideValue) text = none

/-- A write ended so that its caller knows what is stored: it succeeded or met another version. -/
def IsSettled (outcome : Except ServiceError α) : Prop :=
  ∀ error, outcome = .error error → error.isConflict = true

/-- An instance and what is around it. -/
structure Surroundings (State : Type) where
  handle : (request : Request) → State → request.Reply × State
  database : State → Database
  calendar : State → Instant
  /-- The texts that the cache may give for a key. -/
  mayGive : State → String → String → Prop
  /-- Whether the stores answer. -/
  isUp : State → Prop
  /-- What stays between two states when only this instance works and tells nobody. -/
  frame : State → State → Prop
  /-- What it means that an event was published, or that the bus was asked in vain. -/
  published : String → Invalidation → State → State → Prop

namespace Surroundings

variable {State : Type} (surroundings : Surroundings State)

/-- The rows are the given ones, and the cache may give nothing that it might not before. -/
structure Leaves (database : Database) (before after : State) : Prop where
  isUp : surroundings.isUp after
  frame : surroundings.frame before after
  database : surroundings.database after = database
  entries :
    ∀ cacheKey text, surroundings.mayGive after cacheKey text →
      surroundings.mayGive before cacheKey text

/-- The rows stay, and the cache may give nothing that it might not before. -/
abbrev Quiet (before after : State) : Prop :=
  surroundings.Leaves (surroundings.database before) before after

/-- The rows stay, and the cache may give one text more. -/
structure Fills (cacheKey text : String) (before after : State) : Prop where
  isUp : surroundings.isUp after
  frame : surroundings.frame before after
  database : surroundings.database after = surroundings.database before
  entries :
    ∀ otherKey otherText, surroundings.mayGive after otherKey otherText →
      surroundings.mayGive before otherKey otherText ∨ otherKey = cacheKey ∧ otherText = text

/-- The cache may give nothing for a key that can be read. -/
def Dropped (state : State) (cacheKey : String) : Prop :=
  ∀ text, surroundings.mayGive state cacheKey text → IsUnreadable cacheKey text

/--
The rows change, then the entry of an event is dropped and the event is published;
the entry may stay only if the outcome says that something failed.
-/
def Invalidates
    (topic : String)
    (event : Invalidation)
    (database : Database)
    (before after : State)
    (outcome : Except ServiceError α) :
    Prop :=
  ∃ erased told, surroundings.Leaves database before erased ∧
    surroundings.published topic event erased told ∧ surroundings.Quiet told after ∧
      (IsSettled outcome → surroundings.Dropped erased event.cacheKey)

/-- Every readable entry of a flag is what the store reads. -/
def FlagIsFresh (state : State) (environment key : String) : Prop :=
  ∀ text flag, surroundings.mayGive state (flagCacheKey environment key) text →
    Wire.decode? text = some flag →
      (surroundings.database state).flags.read environment key = .ok (some flag)

/-- Every readable entry of a scope shows at an instant what the store finds then. -/
def OverrideIsFresh (state : State) (scope : Scope) (now : Instant) : Prop :=
  ∀ text (value : OverrideValue), surroundings.mayGive state (overrideCacheKey scope) text →
    Wire.decode? text = some value →
      (surroundings.database state).overrides.find scope now =
        .ok (if value.isActive now then some value else none)

end Surroundings

open Surroundings

/-- Surroundings whose replies follow the laws of stores, and of a cache that may fail. -/
structure Backing (State : Type) extends Surroundings State where
  frame_refl : ∀ state, frame state state
  frame_trans : ∀ first second third, frame first second → frame second third → frame first third
  count : ∀ state counter amount, isUp state →
    toSurroundings.Quiet state (handle (.count counter amount) state).2
  readClock : ∀ state, isUp state →
    (handle .readClock state).1 = calendar state ∧
      toSurroundings.Quiet state (handle .readClock state).2
  cacheGet : ∀ state cacheKey, isUp state →
    toSurroundings.Quiet state (handle (.call (.cacheGet cacheKey)) state).2 ∧
      ∀ text, (handle (.call (.cacheGet cacheKey)) state).1 = .answered (some text) →
        mayGive state cacheKey text
  cacheSet : ∀ state cacheKey text lifetime, isUp state →
    toSurroundings.Fills cacheKey text state
      (handle (.call (.cacheSet cacheKey text lifetime)) state).2
  cacheDelete : ∀ state cacheKey, isUp state →
    toSurroundings.Quiet state (handle (.call (.cacheDelete cacheKey)) state).2 ∧
      ((handle (.call (.cacheDelete cacheKey)) state).1 = .answered () →
        toSurroundings.Dropped (handle (.call (.cacheDelete cacheKey)) state).2 cacheKey) ∧
      ∀ error, (handle (.call (.cacheDelete cacheKey)) state).1 = .failed error →
        error.isConflict = false
  publish : ∀ state topic event, isUp state →
    published topic event state (handle (.call (.publish topic event)) state).2
  published_isUp : ∀ topic event before after, published topic event before after → isUp after
  readFlag : ∀ state environment key, isUp state →
    (handle (.call (.readFlag environment key)) state).1 =
        .ofExcept ((database state).flags.read environment key) ∧
      toSurroundings.Quiet state (handle (.call (.readFlag environment key)) state).2
  readFlagVersion : ∀ state environment key, isUp state →
    toSurroundings.Quiet state (handle (.call (.readFlagVersion environment key)) state).2
  applyFlagWrite : ∀ state write expected, isUp state →
    (handle (.call (.applyFlagWrite write expected)) state).1 =
        (match ((database state).flags.apply write expected (calendar state)).1 with
        | none => .answered none
        | some row => .ofExcept (row.decode.map some)) ∧
      toSurroundings.Leaves
        { database state with
          flags := ((database state).flags.apply write expected (calendar state)).2 }
        state (handle (.call (.applyFlagWrite write expected)) state).2
  findOverride : ∀ state scope now, isUp state →
    (handle (.call (.findOverride scope now)) state).1 =
        .ofExcept ((database state).overrides.find scope now) ∧
      toSurroundings.Quiet state (handle (.call (.findOverride scope now)) state).2
  upsertOverride : ∀ state scope value expiresAt, isUp state →
    ∃ id,
      (handle (.call (.upsertOverride scope value expiresAt)) state).1 =
          .ofExcept
            ((database state).overrides.upsert id scope value expiresAt (calendar state)).1.decode ∧
        toSurroundings.Leaves
          { database state with
            overrides :=
              ((database state).overrides.upsert id scope value expiresAt (calendar state)).2 }
          state (handle (.call (.upsertOverride scope value expiresAt)) state).2
  clearOverride : ∀ state scope, isUp state →
    (handle (.call (.clearOverride scope)) state).1 = .answered () ∧
      toSurroundings.Leaves
        { database state with
          overrides := (database state).overrides.softDelete scope (calendar state) }
        state (handle (.call (.clearOverride scope)) state).2
  listDead : ∀ state now limit, isUp state →
    toSurroundings.Quiet state (handle (.listDead now limit) state).2
  purge : ∀ state ids now, isUp state →
    toSurroundings.Leaves
      { database state with overrides := ((database state).overrides.purge now ids).2 }
      state (handle (.purge ids now) state).2

namespace Backing

variable {State : Type} {backing : Backing State}

/-- Nothing happened. -/
theorem quiet_refl {state : State} (up : backing.isUp state) : backing.Quiet state state where
  isUp := up
  frame := backing.frame_refl state
  database := rfl
  entries _ _ given := given

/-- Nothing is added before and after the rows change. -/
theorem leaves_trans
    {database : Database}
    {first second third : State}
    (quiet : backing.Quiet first second)
    (leaves : backing.Leaves database second third) :
    backing.Leaves database first third where
  isUp := leaves.isUp
  frame := backing.frame_trans first second third quiet.frame leaves.frame
  database := leaves.database
  entries cacheKey text given := quiet.entries cacheKey text (leaves.entries cacheKey text given)

/-- The rows stay as they were left. -/
theorem leaves_quiet
    {database : Database}
    {first second third : State}
    (leaves : backing.Leaves database first second)
    (quiet : backing.Quiet second third) :
    backing.Leaves database first third where
  isUp := quiet.isUp
  frame := backing.frame_trans first second third leaves.frame quiet.frame
  database := quiet.database.trans leaves.database
  entries cacheKey text given := leaves.entries cacheKey text (quiet.entries cacheKey text given)

/-- Two steps of which nothing stays are one. -/
theorem quiet_trans {first second third : State}
    (before : backing.Quiet first second)
    (after : backing.Quiet second third) :
    backing.Quiet first third :=
  leaves_quiet before after

/-- One text is added after nothing was. -/
theorem fills_trans {cacheKey text : String} {first second third : State}
    (quiet : backing.Quiet first second)
    (fills : backing.Fills cacheKey text second third) :
    backing.Fills cacheKey text first third where
  isUp := fills.isUp
  frame := backing.frame_trans first second third quiet.frame fills.frame
  database := fills.database.trans quiet.database
  entries otherKey otherText given := by
    rcases fills.entries otherKey otherText given with old | new
    · exact .inl (quiet.entries otherKey otherText old)
    · exact .inr new

/-- What is counted about a call changes nothing. -/
theorem quiet_of_call {asked : Call} {state : State}
    (up : backing.isUp (backing.handle (.call asked) state).2) :
    backing.Quiet (backing.handle (.call asked) state).2
      (Operation.perform backing.handle (Operation.call asked) state).2 := by
  rw [Operation.perform_call]
  cases (backing.handle (.call asked) state).1 with
  | answered value => exact quiet_refl up
  | failed error => exact quiet_refl up
  | timedOut => exact backing.count _ _ _ up

/-- What a call gives is what its outcome says. -/
theorem outcome_of_call (asked : Call) (state : State) :
    (Operation.perform backing.handle (Operation.call asked) state).1 =
      (backing.handle (.call asked) state).1.toExcept asked.operation := by
  rw [Operation.perform_call]

/-- What a call gives, and where it ends. -/
theorem perform_call_eq (asked : Call) (state : State) :
    Operation.perform backing.handle (Operation.call asked) state =
      ((backing.handle (.call asked) state).1.toExcept asked.operation,
        (Operation.perform backing.handle (Operation.call asked) state).2) :=
  Prod.ext (outcome_of_call asked state) rfl

/-- What is left by a request is left by its call. -/
theorem leaves_of_call {asked : Call} {database : Database} {state : State}
    (leaves : backing.Leaves database state (backing.handle (.call asked) state).2) :
    backing.Leaves database state
      (Operation.perform backing.handle (Operation.call asked) state).2 :=
  leaves_quiet leaves (quiet_of_call leaves.isUp)

end Backing

end Switchboard
