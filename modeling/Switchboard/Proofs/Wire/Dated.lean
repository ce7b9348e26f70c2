import Switchboard.Exposure.Record
import Switchboard.Invalidation
import Switchboard.Override.Basic
import Switchboard.Proofs.Time.Shown
import Switchboard.Targeting.Flag

namespace Switchboard

/-!
# What texts show of values that hold instants

A value travels with its instants as clocks show them.  Whoever reads it gets the value
itself when a clock shows all of its instants, and otherwise the value with the instants
that a clock would show.
-/

/-- A type whose values may hold instants. -/
class Dated (α : Type) where
  /-- The value with each of its instants as a clock shows it. -/
  shown : α → α
  /-- A clock shows all instants of the value. -/
  IsShown : α → Prop
  shown_eq_self_iff : ∀ value, shown value = value ↔ IsShown value

namespace Dated

/-- A type whose values hold no instant. -/
@[reducible] def timeless (α : Type) : Dated α where
  shown := id
  IsShown _ := True
  shown_eq_self_iff _ := iff_of_true rfl trivial

instance : Dated String := timeless String

instance : Dated Bool := timeless Bool

instance : Dated Int64 := timeless Int64

instance : Dated UInt8 := timeless UInt8

instance : Dated TextSet := timeless TextSet

instance : Dated ScopeKind := timeless ScopeKind

instance : Dated OverrideId := timeless OverrideId

instance : Dated Scope := timeless Scope

instance : Dated Instant where
  shown := Instant.shown
  IsShown := Instant.IsShown
  shown_eq_self_iff _ := Instant.shown_eq_self_iff

instance [Dated α] : Dated (Option α) where
  shown := Option.map shown
  IsShown value? := ∀ value ∈ value?, IsShown value
  shown_eq_self_iff value? := by
    cases value? with
    | none => simp
    | some value => simp [shown_eq_self_iff]

instance [Dated α] : Dated (List α) where
  shown := List.map shown
  IsShown values := ∀ value ∈ values, IsShown value
  shown_eq_self_iff values := by
    induction values with
    | nil => simp
    | cons first rest inductionHypothesis =>
        simp [shown_eq_self_iff, inductionHypothesis]

@[simp] theorem shown_timeless {α : Type} (value : α) : (timeless α).shown value = value :=
  rfl

@[simp] theorem shown_timeless_option {α : Type} (value? : Option α) :
    (@instOption α (timeless α)).shown value? = value? :=
  Option.map_id_apply

@[simp] theorem shown_timeless_list {α : Type} (values : List α) :
    (@instList α (timeless α)).shown values = values :=
  List.map_id _

@[simp] theorem shown_timeless_list_option {α : Type} (values? : Option (List α)) :
    (@instOption (List α) (@instList α (timeless α))).shown values? = values? := by
  cases values? with
  | none => rfl
  | some values => exact congrArg some (shown_timeless_list values)

variable {α : Type} [Dated α] {value : α}

/-- Where there is no value, there is no instant. -/
theorem isShown_none : IsShown (none : Option α) :=
  nofun

theorem isShown_some : IsShown (some value) ↔ IsShown value :=
  ⟨fun isShown => isShown value rfl, fun isShown _ same => Option.some.inj same ▸ isShown⟩

/-- A value whose instants a clock shows travels as it is. -/
theorem shown_of_isShown (isShown : IsShown value) : shown value = value :=
  (shown_eq_self_iff value).mpr isShown

end Dated

open Dated

instance : Dated Condition where
  shown
    | .timeWindow opens closes => .timeWindow (shown opens) (shown closes)
    | condition => condition
  IsShown
    | .timeWindow opens closes => IsShown opens ∧ IsShown closes
    | _ => True
  shown_eq_self_iff condition := by
    cases condition <;> simp [shown_eq_self_iff]

instance : Dated Rule where
  shown rule := { rule with conditions := shown rule.conditions }
  IsShown rule := IsShown rule.conditions
  shown_eq_self_iff rule := by
    obtain ⟨conditions, _⟩ := rule
    simp [shown_eq_self_iff]

instance : Dated Flag where
  shown flag :=
    { flag with
      rules := shown flag.rules
      createdAt := shown flag.createdAt
      updatedAt := shown flag.updatedAt }
  IsShown flag := IsShown flag.rules ∧ IsShown flag.createdAt ∧ IsShown flag.updatedAt
  shown_eq_self_iff flag := by
    obtain ⟨_, _, _, rules, _, _, createdAt, updatedAt⟩ := flag
    simp [shown_eq_self_iff]

instance : Dated Context where
  shown context := { context with now := shown context.now }
  IsShown context := IsShown context.now
  shown_eq_self_iff context := by
    obtain ⟨_, _, _, _, _, _, now⟩ := context
    simp [shown_eq_self_iff]

instance : Dated OverrideValue where
  shown state := { state with expiresAt := shown state.expiresAt }
  IsShown state := IsShown state.expiresAt
  shown_eq_self_iff state := by
    obtain ⟨_, expiresAt⟩ := state
    simp [shown_eq_self_iff]

instance : Dated Override where
  shown override :=
    { override with
      expiresAt := shown override.expiresAt
      deletedAt := shown override.deletedAt
      createdAt := shown override.createdAt
      updatedAt := shown override.updatedAt }
  IsShown override :=
    IsShown override.expiresAt ∧ IsShown override.deletedAt ∧ IsShown override.createdAt ∧
      IsShown override.updatedAt
  shown_eq_self_iff override := by
    obtain ⟨_, _, _, expiresAt, deletedAt, createdAt, updatedAt⟩ := override
    simp [shown_eq_self_iff]

instance : Dated Exposure where
  shown record := { record with timestamp := shown record.timestamp }
  IsShown record := IsShown record.timestamp
  shown_eq_self_iff record := by
    obtain ⟨_, _, _, _, _, _, timestamp⟩ := record
    simp [shown_eq_self_iff]

instance : Dated Invalidation where
  shown
    | .flagUpdated environment key version timestamp =>
        .flagUpdated environment key version (shown timestamp)
    | .overrideChanged scope timestamp => .overrideChanged scope (shown timestamp)
  IsShown
    | .flagUpdated _ _ _ timestamp => IsShown timestamp
    | .overrideChanged _ timestamp => IsShown timestamp
  shown_eq_self_iff event := by
    cases event <;> simp [shown_eq_self_iff]

end Switchboard
