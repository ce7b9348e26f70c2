import Switchboard.Proofs.Wire.RoundTrip

namespace Switchboard

open FaithfulWire

/-!
# Wire forms of overrides are read back

Scopes and stored overrides are written by their parts, and what is read has the same
parts.  A patch is the exception: null is written for both of what it may mean for the
expiry, and read as the one that clears it, so a patch that kept the expiry of an
override takes it away once it has travelled.
-/

instance : FaithfulWire ScopeKind where
  isPlain_toJson _ := rfl
  ofJson_toJson kind := kind.ofLabel_label
  toJson_ne_null _ := Json.noConfusion

instance : FaithfulWire OverrideId where
  isPlain_toJson _ := rfl
  ofJson_toJson id := by
    simp only [Wire.ofJson?, Wire.toJson, Json.text, Json.text?, Option.bind_some,
      id.parse_written]
    rfl
  toJson_ne_null _ := Json.noConfusion

instance : FaithfulWire Scope where
  isPlain_toJson scope := by
    apply Json.isPlain_record
    intro member isMember
    simp only [List.mem_cons, List.not_mem_nil, or_false] at isMember
    rcases isMember with rfl | rfl | rfl | rfl
    · exact isPlain_toJson scope.environment
    · exact isPlain_toJson scope.key
    · exact isPlain_toJson scope.kind
    · exact isPlain_toJson scope.holder
  ofJson_toJson scope := by
    unfold Wire.ofJson? instWireScope
    dsimp only
    rw [Json.fields_record rfl (by decide)]
    simp [required_toJson]
  toJson_ne_null _ := Json.noConfusion

instance : FaithfulWire Override where
  isPlain_toJson override := by
    apply Json.isPlain_record
    intro member isMember
    simp only [List.mem_cons, List.not_mem_nil, or_false] at isMember
    rcases isMember with rfl | rfl | rfl | rfl | rfl | rfl | rfl | rfl | rfl | rfl
    · exact isPlain_toJson override.id
    · exact isPlain_toJson override.scope.environment
    · exact isPlain_toJson override.scope.key
    · exact isPlain_toJson override.scope.kind
    · exact isPlain_toJson override.scope.holder
    · exact isPlain_toJson override.value
    · exact isPlain_optional override.expiresAt
    · exact isPlain_optional override.deletedAt
    · exact isPlain_toJson override.createdAt
    · exact isPlain_toJson override.updatedAt
  ofJson_toJson override := by
    unfold Wire.ofJson? instWireOverride
    dsimp only
    rw [Json.fields_record rfl (by decide)]
    simp [required_toJson, nullable_optional]
    rfl
  toJson_ne_null _ := Json.noConfusion

namespace OverridePatch

/--
The patch that is read where a patch was written: one that clears instead of keeping, and
sets what a clock shows.
-/
def received (patch : OverridePatch) : OverridePatch where
  value := patch.value
  expiry := .set (Dated.shown (patch.expiryAfter none))

/-- A clock shows the expiry that the patch sets, if it sets one. -/
def SetsShown (patch : OverridePatch) : Prop :=
  Dated.IsShown (patch.expiryAfter none)

private theorem isPlain_toJson (patch : OverridePatch) :
    (Wire.toJson patch).isPlain = true := by
  apply Json.isPlain_record
  intro member isMember
  simp only [List.mem_cons, List.not_mem_nil, or_false] at isMember
  rcases isMember with rfl | rfl
  · exact isPlain_optional patch.value
  · show patch.expiry.toJson.isPlain = true
    cases patch.expiry with
    | keep => rfl
    | set expiresAt => exact isPlain_optional expiresAt

private theorem ofPart_toJson (patch : OverridePatch) :
    ExpiryChange.ofPart? (some patch.expiry.toJson) = some patch.received.expiry := by
  unfold received expiryAfter
  cases patch.expiry with
  | keep => rfl
  | set expiresAt =>
      simp only [ExpiryChange.ofPart?, ExpiryChange.toJson, nullable_optional, Option.map_some]

private theorem ofJson_toJson (patch : OverridePatch) :
    Wire.ofJson? (Wire.toJson patch) = some patch.received := by
  unfold Wire.ofJson? instWireOverridePatch
  dsimp only
  rw [Json.fields_record rfl (by decide)]
  simp [nullable_optional, ofPart_toJson, received]

private theorem decode_encode (patch : OverridePatch) :
    Wire.decode? (Wire.encode patch) = some patch.received :=
  Wire.decode_encode_of patch.isPlain_toJson patch.ofJson_toJson

private theorem expiryAfter_set {patch : OverridePatch} {expiresAt : Option Instant}
    (sets : patch.expiry = .set expiresAt) (current : Option OverrideValue) :
    patch.expiryAfter current = expiresAt := by
  unfold expiryAfter
  rw [sets]

private theorem apply_eq (patch : OverridePatch) (current : Option OverrideValue) :
    patch.apply current =
      (patch.value.or (current.map OverrideValue.value)).map fun value =>
        ⟨value, patch.expiryAfter current⟩ := by
  unfold apply
  cases patch.value.or (current.map OverrideValue.value) with
  | none => rfl
  | some value => rfl

/-- A patch that sets the expiry sets what a clock shows of it once it was written and read. -/
theorem apply_received_of_set {patch : OverridePatch} {expiresAt : Option Instant}
    (sets : patch.expiry = .set expiresAt)
    (current : Option OverrideValue) :
    patch.received.apply current = (patch.apply current).map Dated.shown := by
  have arrives : patch.received.expiryAfter current = Dated.shown expiresAt := by
    rw [← expiryAfter_set sets none]
    rfl
  rw [apply_eq, apply_eq, arrives, expiryAfter_set sets, Option.map_map]
  rfl

/-- A patch that keeps the expiry clears it once it was written and read. -/
theorem apply_received_of_keep {patch : OverridePatch} (keeps : patch.expiry = .keep)
    (current : Option OverrideValue) :
    patch.received.apply current =
      (patch.apply current).map fun state => { state with expiresAt := none } := by
  have cleared : patch.received.expiryAfter current = none := by
    simp only [received, expiryAfter, keeps, Option.bind_none]
    rfl
  rw [apply_eq, apply_eq, cleared, Option.map_map]
  rfl

/--
What a patch does survives its transport exactly where it does not keep an expiry that
there is, and sets none that no clock shows.  Where it keeps one, the patch that arrives
takes it away.
-/
theorem transport_preserves_effect_iff (patch : OverridePatch) :
    ∃ arrived : OverridePatch,
      Wire.decode? (Wire.encode patch) = some arrived ∧ arrived.expiry ≠ .keep ∧
        ∀ current,
          (arrived.apply current = patch.apply current ↔
              (patch.expiry = .keep → current.bind OverrideValue.expiresAt = none) ∧
                ((patch.apply current).isSome → patch.SetsShown)) ∧
            (patch.expiry = .keep → arrived.apply current =
              (patch.apply current).map fun state => { state with expiresAt := none }) := by
  refine ⟨patch.received, patch.decode_encode, ExpiryChange.noConfusion, fun current => ?_⟩
  cases expiry : patch.expiry with
  | set expiresAt =>
      have setsShown : patch.SetsShown ↔ Dated.IsShown expiresAt := by
        rw [SetsShown, expiryAfter_set expiry]
      refine ⟨?_, nofun⟩
      rw [apply_received_of_set expiry, setsShown, apply_eq, expiryAfter_set expiry]
      cases patch.value.or (current.map OverrideValue.value) with
      | none => simp
      | some value => simp [Dated.shown_eq_self_iff, Dated.IsShown]
  | keep =>
      have clears := apply_received_of_keep expiry current
      have setsNothing : patch.SetsShown := by
        simp [SetsShown, expiryAfter, expiry, Dated.IsShown]
      have kept : patch.expiryAfter current = current.bind OverrideValue.expiresAt := by
        simp only [expiryAfter, expiry]
      refine ⟨?_, fun _ => clears⟩
      rw [clears, apply_eq, kept]
      cases current with
      | none => cases patch.value <;> simp [setsNothing]
      | some state => cases patch.value <;> simp [setsNothing, eq_comm]

namespace Travelling

/-- An override that is in force until an instant. -/
def lapsing : OverrideValue :=
  ⟨true, some .mayDay⟩

/-- A patch that turns the override off and says nothing of its expiry. -/
def patch : OverridePatch where
  value := some false

end Travelling

open Travelling in
/-- The override stays off for ever, and not until its expiry. -/
theorem transport_preserves_effect_iff_lapsing :
    ∃ arrived : OverridePatch, Wire.decode? (Wire.encode patch) = some arrived ∧
      patch.apply (some lapsing) = some ⟨false, some .mayDay⟩ ∧
        arrived.apply (some lapsing) = some ⟨false, none⟩ ∧
          arrived.apply (some lapsing) ≠ patch.apply (some lapsing) := by
  obtain ⟨arrived, read, _, effect⟩ := transport_preserves_effect_iff patch
  obtain ⟨same, clears⟩ := effect (some lapsing)
  refine ⟨arrived, read, rfl, clears rfl, fun unchanged => ?_⟩
  cases (same.mp unchanged).1 rfl

end OverridePatch

end Switchboard
