import Switchboard.Override.Basic
import Switchboard.Wire.Basic

namespace Switchboard

/-!
# Wire forms of overrides

The parts of the scope of a stored override stand among its own.  The form of a
patch does not show whether it keeps the expiry or clears it: absence keeps it,
null clears it, and null is what is written for both.
-/

instance : Wire ScopeKind where
  toJson kind := .text kind.label
  ofJson? json := (Json.kindName? json).bind ScopeKind.ofLabel?

instance : Wire OverrideId where
  toJson id := .text id.written
  ofJson? json := (Json.text? json).bind OverrideId.parse

namespace Scope

/-- The parts of a scope. -/
def fields : List Json.Field :=
  [⟨"environment", false⟩, ⟨"key", false⟩, ⟨"scopeType", false⟩, ⟨"scopeId", false⟩]

end Scope

instance : Wire Scope where
  toJson scope :=
    .record
      [("environment", Wire.toJson scope.environment),
        ("key", Wire.toJson scope.key),
        ("scopeType", Wire.toJson scope.kind),
        ("scopeId", Wire.toJson scope.holder)]
  ofJson? json :=
    match Json.fields? Scope.fields json with
    | some [environment, key, kind, holder] => do
        return {
          environment := ← Wire.required? environment
          key := ← Wire.required? key
          kind := ← Wire.required? kind
          holder := ← Wire.required? holder
        }
    | _ => none

namespace OverrideValue

/-- The parts that readers see. -/
def fields : List Json.Field :=
  [⟨"value", false⟩, ⟨"expiresAt", false⟩]

end OverrideValue

instance : Wire OverrideValue where
  toJson state :=
    .record [("value", Wire.toJson state.value), ("expiresAt", Wire.optional state.expiresAt)]
  ofJson? json :=
    match Json.fields? OverrideValue.fields json with
    | some [value, expiresAt] => do
        return ⟨← Wire.required? value, ← Wire.nullable? expiresAt⟩
    | _ => none

namespace Override

/-- The parts of a stored override. -/
def fields : List Json.Field :=
  [⟨"id", false⟩, ⟨"environment", false⟩, ⟨"key", false⟩, ⟨"scopeType", false⟩,
    ⟨"scopeId", false⟩, ⟨"value", false⟩, ⟨"expiresAt", false⟩, ⟨"deletedAt", false⟩,
    ⟨"createdAt", false⟩, ⟨"updatedAt", false⟩]

end Override

instance : Wire Override where
  toJson override :=
    .record
      [("id", Wire.toJson override.id),
        ("environment", Wire.toJson override.scope.environment),
        ("key", Wire.toJson override.scope.key),
        ("scopeType", Wire.toJson override.scope.kind),
        ("scopeId", Wire.toJson override.scope.holder),
        ("value", Wire.toJson override.value),
        ("expiresAt", Wire.optional override.expiresAt),
        ("deletedAt", Wire.optional override.deletedAt),
        ("createdAt", Wire.toJson override.createdAt),
        ("updatedAt", Wire.toJson override.updatedAt)]
  ofJson? json :=
    match Json.fields? Override.fields json with
    | some [id, environment, key, kind, holder, value, expires, deleted, created, updated] => do
        return {
          id := ← Wire.required? id
          scope := {
            environment := ← Wire.required? environment
            key := ← Wire.required? key
            kind := ← Wire.required? kind
            holder := ← Wire.required? holder
          }
          value := ← Wire.required? value
          expiresAt := ← Wire.nullable? expires
          deletedAt := ← Wire.nullable? deleted
          createdAt := ← Wire.required? created
          updatedAt := ← Wire.required? updated
        }
    | _ => none

namespace ExpiryChange

/-- The form of a change: the new expiry, or null. -/
def toJson : ExpiryChange → Json
  | .keep => .null
  | .set expiresAt => Wire.optional expiresAt

/-- The change of a part: absence keeps the expiry and null clears it. -/
def ofPart? : Option Json → Option ExpiryChange
  | none => some .keep
  | some part => (Wire.nullable? (some part)).map .set

end ExpiryChange

namespace OverridePatch

/-- The parts of a patch, each of which may be left out. -/
def fields : List Json.Field :=
  [⟨"value", true⟩, ⟨"expiresAt", true⟩]

end OverridePatch

instance : Wire OverridePatch where
  toJson patch :=
    .record [("value", Wire.optional patch.value), ("expiresAt", patch.expiry.toJson)]
  ofJson? json :=
    match Json.fields? OverridePatch.fields json with
    | some [value, expiry] => do
        return ⟨← Wire.nullable? value, ← ExpiryChange.ofPart? expiry⟩
    | _ => none

end Switchboard
