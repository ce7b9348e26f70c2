import Switchboard.Layer
import Switchboard.Proofs.Time.RoundTrip

namespace Switchboard.Layer

/-!
# Tasks of a layer

What a layer can be asked for.  Runs of whatever kind are made of tasks: each names what is
asked, its operation is how the layer goes about it, and its entry is what it reads or writes.
-/

/-- What is stored and cached under one key. -/
inductive Entry where
  | flag (environment key : String)
  | override (scope : Scope)
  deriving DecidableEq, Repr

/-- The key under which an entry is cached. -/
def Entry.cacheKey : Entry → String
  | flag environment key => flagCacheKey environment key
  | override scope => overrideCacheKey scope

/-- One thing that a layer is asked for. -/
inductive Task where
  | getFlag (environment key : String)
  | getOverride (scope : Scope)
  | getOverrideAt (scope : Scope) (now : Instant)
  | writeFlag (write : FlagWrite) (expected : Option Int64)
  | upsertOverride (scope : Scope) (value : Bool) (expiresAt : Option Instant)
  | clearOverride (scope : Scope)
  deriving DecidableEq, Repr

namespace Task

/-- What a task gives when it succeeds. -/
@[reducible] def Answer : Task → Type
  | getFlag .. => Option Flag
  | getOverride _ => Option OverrideValue
  | getOverrideAt .. => Option OverrideValue
  | writeFlag .. => Flag
  | upsertOverride .. => Override
  | clearOverride _ => Unit

/-- How a layer goes about a task. -/
def operation (layer : Layer) : (task : Task) → Operation task.Answer
  | getFlag environment key => layer.getFlag environment key
  | getOverride scope => layer.getOverride scope
  | getOverrideAt scope now => layer.getOverrideAt scope now
  | writeFlag write expected => layer.writeFlag write expected
  | upsertOverride scope value expiresAt => layer.upsertOverride scope value expiresAt
  | clearOverride scope => layer.clearOverride scope

/-- What a task reads or writes. -/
def entry : Task → Entry
  | getFlag environment key => .flag environment key
  | getOverride scope => .override scope
  | getOverrideAt scope _ => .override scope
  | writeFlag write _ => .flag write.environment write.key
  | upsertOverride scope .. => .override scope
  | clearOverride scope => .override scope

/-- Whether a task only reads. -/
def isRead : Task → Bool
  | getFlag .. => true
  | getOverride _ => true
  | getOverrideAt .. => true
  | _ => false

/-- What callers see to: the expiries that they write have years of four digits. -/
def IsRegular : Task → Prop
  | upsertOverride _ _ expiresAt => ∀ expiry ∈ expiresAt, expiry.HasPlainYear
  | _ => True

instance (task : Task) : Decidable task.IsRegular :=
  match task with
  | upsertOverride _ _ expiresAt =>
      inferInstanceAs (Decidable (∀ expiry ∈ expiresAt, expiry.HasPlainYear))
  | getFlag .. => .isTrue trivial
  | getOverride _ => .isTrue trivial
  | getOverrideAt .. => .isTrue trivial
  | writeFlag .. => .isTrue trivial
  | clearOverride _ => .isTrue trivial

end Task

end Switchboard.Layer
