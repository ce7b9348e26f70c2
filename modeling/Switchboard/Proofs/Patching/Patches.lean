import Switchboard.Proofs.Store.Overrides

namespace Switchboard

/-!
# Patches

A patch takes each part of an override from itself where it sets it, and leaves the others.  Two
patches in a row are one, which takes each part from the second where that sets it and from the
first otherwise, even where a store in between keeps no more than whole microseconds.
-/

namespace OverrideValue

/-- What a row tells of a state: its expiry as a clock shows it, in whole microseconds. -/
def toMicros (state : OverrideValue) : OverrideValue :=
  { state with expiresAt := state.expiresAt.map fun expiry => expiry.shown.truncateToMicros }

/-- What a reader sees of a state: all of it before its expiry, and nothing after. -/
def inForce (state : OverrideValue) (now : Instant) : Option OverrideValue :=
  if state.isActive now then some state else none

/-- A row tells all of what was read from one. -/
theorem IsStored.toMicros_eq {state : OverrideValue} (stored : state.IsStored) :
    state.toMicros = state := by
  obtain ⟨value, expiresAt⟩ := state
  cases expiresAt with
  | none => rfl
  | some expiry =>
      obtain ⟨storable, whole⟩ := stored expiry rfl
      simp only [toMicros, Option.map_some, Instant.shown_of_isShown storable.isShown, whole]

theorem toMicros_toMicros (state : OverrideValue) : state.toMicros.toMicros = state.toMicros := by
  have twice (expiry : Instant) :
      expiry.shown.truncateToMicros.shown.truncateToMicros = expiry.shown.truncateToMicros := by
    rw [Instant.shown_of_isShown (Instant.isShown_truncateToMicros.mpr expiry.isShown_shown),
      Instant.truncateToMicros_truncateToMicros]
  simp only [toMicros, Option.map_map, Function.comp_def, twice]

end OverrideValue

namespace OverridePatch

variable {patch first second : OverridePatch} {current : Option OverrideValue}
variable {next middle : OverrideValue}

/-- The expiry that a patch sets, if it sets one, has a year of four digits. -/
def HasPlainYear (patch : OverridePatch) : Prop :=
  ∀ expiresAt, patch.expiry = .set expiresAt → ∀ expiry ∈ expiresAt, expiry.HasPlainYear

/-- The patch that sets what the second sets, and what the first sets of the rest. -/
def andThen (first second : OverridePatch) : OverridePatch where
  value := second.value.or first.value
  expiry :=
    match second.expiry with
    | .keep => first.expiry
    | .set expiresAt => .set expiresAt

theorem HasPlainYear.andThen (firstPlain : first.HasPlainYear)
    (secondPlain : second.HasPlainYear) :
    (first.andThen second).HasPlainYear := by
  intro expiresAt sets
  unfold OverridePatch.andThen at sets
  cases secondSets : second.expiry with
  | keep =>
      rw [secondSets] at sets
      exact firstPlain expiresAt sets
  | set other =>
      rw [secondSets] at sets
      cases sets
      exact secondPlain expiresAt secondSets

/-- A patch comes to nothing where nobody has a value. -/
theorem apply_eq_none_iff : patch.apply current = none ↔ patch.value = none ∧ current = none := by
  unfold apply
  cases patch.value with
  | some value => simp
  | none => cases current <;> simp

/-- A patch comes to its own value, or to the one that is there. -/
theorem apply_eq_some_iff :
    patch.apply current = some next ↔
      patch.value.or (current.map OverrideValue.value) = some next.value ∧
        patch.expiryAfter current = next.expiresAt := by
  obtain ⟨value, expiresAt⟩ := next
  unfold apply
  cases patch.value.or (current.map OverrideValue.value) with
  | none => simp
  | some value => simp

/-- What a patch makes of what a row tells has a year of four digits, too. -/
theorem HasPlainYear.apply (plainYear : patch.HasPlainYear)
    (stored : ∀ state ∈ current, state.IsStored)
    (applied : patch.apply current = some next) :
    ∀ expiry ∈ next.expiresAt, expiry.HasPlainYear := by
  rw [← (apply_eq_some_iff.mp applied).2]
  intro expiry isExpiry
  unfold expiryAfter at isExpiry
  cases sets : patch.expiry with
  | set expiresAt =>
      rw [sets] at isExpiry
      exact plainYear expiresAt sets expiry isExpiry
  | keep =>
      rw [sets] at isExpiry
      obtain ⟨state, isCurrent, expires⟩ := Option.bind_eq_some_iff.mp isExpiry
      exact (stored state isCurrent expiry expires).1.plainYear

/-- Two patches in a row come to what the one that joins them comes to. -/
theorem apply_andThen (second : OverridePatch) (applied : first.apply current = some middle) :
    (second.apply (some middle.toMicros)).map OverrideValue.toMicros =
      ((first.andThen second).apply current).map OverrideValue.toMicros := by
  obtain ⟨value, expiry⟩ := apply_eq_some_iff.mp applied
  have joined : (first.andThen second).apply current = second.apply (some middle) := by
    unfold OverridePatch.apply expiryAfter OverridePatch.andThen
    rw [Option.or_assoc, value]
    cases second.expiry with
    | keep =>
        unfold expiryAfter at expiry
        simp [expiry]
    | set expiresAt => rfl
  have told : (second.apply (some middle.toMicros)).map OverrideValue.toMicros =
      (second.apply (some middle)).map OverrideValue.toMicros := by
    have twice := middle.toMicros_toMicros
    unfold OverridePatch.apply expiryAfter
    cases second.expiry with
    | set expiresAt => rfl
    | keep => cases second.value <;> simpa [OverrideValue.toMicros] using twice
  rw [joined, told]

end OverridePatch

end Switchboard
