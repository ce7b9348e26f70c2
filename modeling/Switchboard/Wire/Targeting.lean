import Switchboard.Targeting.Flag
import Switchboard.Wire.Basic

namespace Switchboard

/-!
# Wire forms of flags

A condition is an object with its kind as the only key.  Contexts leave out what
is unknown; flags write an unknown editor as null.
-/

namespace Condition

/-- The bounds of a window, each of which may be left out. -/
def windowFields : List Json.Field :=
  [⟨"from", true⟩, ⟨"to", true⟩]

/-- What a condition compares with. -/
def contentJson : Condition → Json
  | .planIn set => Wire.toJson set
  | .countryIn set => Wire.toJson set
  | .emailDomainIn set => Wire.toJson set
  | .tenantTagIn set => Wire.toJson set
  | .timeWindow opens closes =>
      .sparse [("from", opens.map Wire.toJson), ("to", closes.map Wire.toJson)]
  | .percentage threshold => Wire.toJson threshold

/-- The condition of a kind and of what it compares with. -/
def ofContent? (kind : String) (content : Json) : Option Condition :=
  match kind with
  | "planIn" => (Wire.ofJson? content).map .planIn
  | "countryIn" => (Wire.ofJson? content).map .countryIn
  | "emailDomainIn" => (Wire.ofJson? content).map .emailDomainIn
  | "tenantTagIn" => (Wire.ofJson? content).map .tenantTagIn
  | "timeWindow" =>
      match Json.fields? windowFields content with
      | some [opens, closes] => do
          return .timeWindow (← Wire.nullable? opens) (← Wire.nullable? closes)
      | _ => none
  | "percentage" => (Wire.ofJson? content).map .percentage
  | _ => none

end Condition

instance : Wire Condition where
  toJson condition := .record [(condition.kind, condition.contentJson)]
  ofJson?
    | .object [(some kind, content)] => Condition.ofContent? kind content
    | _ => none

namespace Rule

/-- A rule has its conditions, which may be left out, and its outcome. -/
def fields : List Json.Field :=
  [⟨"if", true⟩, ⟨"then", false⟩]

/-- An outcome has a value. -/
def outcomeFields : List Json.Field :=
  [⟨"value", false⟩]

/-- The value of an outcome. -/
def outcome? (json : Json) : Option Bool :=
  match Json.fields? outcomeFields json with
  | some [value] => Wire.required? value
  | _ => none

/-- The conditions of a rule: none where they are left out. -/
def conditions? : Option Json → Option (List Condition)
  | none => some []
  | some json => Wire.ofJson? json

end Rule

instance : Wire Rule where
  toJson rule :=
    .record
      [("if", Wire.toJson rule.conditions),
        ("then", .record [("value", Wire.toJson rule.value)])]
  ofJson? json :=
    match Json.fields? Rule.fields json with
    | some [conditions, outcome] => do
        return ⟨← Rule.conditions? conditions, ← Json.required Rule.outcome? outcome⟩
    | _ => none

namespace Flag

/-- The parts of a flag. -/
def fields : List Json.Field :=
  [⟨"environment", false⟩, ⟨"key", false⟩, ⟨"enabledDefault", false⟩, ⟨"rules", false⟩,
    ⟨"snapshotVersion", false⟩, ⟨"lastEditorId", false⟩, ⟨"createdAt", false⟩,
    ⟨"updatedAt", false⟩]

end Flag

instance : Wire Flag where
  toJson flag :=
    .record
      [("environment", Wire.toJson flag.environment),
        ("key", Wire.toJson flag.key),
        ("enabledDefault", Wire.toJson flag.enabledDefault),
        ("rules", Wire.toJson flag.rules),
        ("snapshotVersion", Wire.toJson flag.version),
        ("lastEditorId", Wire.optional flag.lastEditorId),
        ("createdAt", Wire.toJson flag.createdAt),
        ("updatedAt", Wire.toJson flag.updatedAt)]
  ofJson? json :=
    match Json.fields? Flag.fields json with
    | some [environment, key, enabledDefault, rules, version, editor, created, updated] => do
        return {
          environment := ← Wire.required? environment
          key := ← Wire.required? key
          enabledDefault := ← Wire.required? enabledDefault
          rules := ← Wire.required? rules
          version := ← Wire.required? version
          lastEditorId := ← Wire.nullable? editor
          createdAt := ← Wire.required? created
          updatedAt := ← Wire.required? updated
        }
    | _ => none

namespace Context

/-- The parts of a context, each of which may be left out. -/
def fields : List Json.Field :=
  [⟨"userId", true⟩, ⟨"tenantId", true⟩, ⟨"email", true⟩, ⟨"country", true⟩,
    ⟨"tenantTags", true⟩, ⟨"plan", true⟩, ⟨"now", true⟩]

end Context

instance : Wire Context where
  toJson context :=
    .sparse
      [("userId", context.userId.map Wire.toJson),
        ("tenantId", context.tenantId.map Wire.toJson),
        ("email", context.email.map Wire.toJson),
        ("country", context.country.map Wire.toJson),
        ("tenantTags", context.tenantTags.map Wire.toJson),
        ("plan", context.plan.map Wire.toJson),
        ("now", context.now.map Wire.toJson)]
  ofJson? json :=
    match Json.fields? Context.fields json with
    | some [userId, tenantId, email, country, tenantTags, plan, now] => do
        return {
          userId := ← Wire.nullable? userId
          tenantId := ← Wire.nullable? tenantId
          email := ← Wire.nullable? email
          country := ← Wire.nullable? country
          tenantTags := ← Wire.nullable? tenantTags
          plan := ← Wire.nullable? plan
          now := ← Wire.nullable? now
        }
    | _ => none

end Switchboard
