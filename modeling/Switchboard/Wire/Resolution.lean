import Switchboard.Exposure.Record
import Switchboard.Wire.Basic

namespace Switchboard

/-!
# Wire forms of resolutions

A reason names its tier under `type`, beside the index of the rule where a rule
decided.  A reader that meets the other members first sets them aside, so they
must be values that can be held, whatever the tier makes of them.
-/

namespace Reason

/-- The greatest number of bits of a rule index. -/
def indexBits : Nat :=
  64

/-- The reason that a tier gives on its own. -/
def ofLabel? : String → Option Reason
  | "user_override" => some .userOverride
  | "tenant_override" => some .tenantOverride
  | "default" => some .default
  | "flag_not_found" => some .flagNotFound
  | _ => none

/-- The reason of a tier and of the members beside it. -/
def ofMembers? (label : String) (members : List (Option String × Json)) : Option Reason :=
  if label = "rule_match" then do
    let index ← Json.member? members "rule_index"
    return .ruleMatch (← Json.required (Json.nat? indexBits) index)
  else
    ofLabel? label

/-- The reason of a tier and of the items after it. -/
def ofItems? (label : String) (items : List Json) : Option Reason :=
  match label, items with
  | "rule_match", [index] => (Json.nat? indexBits index).map .ruleMatch
  | label, [] => ofLabel? label
  | _, _ => none

/-- The reason of a value that stands within `depth` open brackets. -/
def ofJsonWithin? (depth : Nat) : Json → Option Reason
  | .object members => do
      let label ← Json.required Json.text? (← Json.member? members "type")
      let others := members.filter fun (name, _) => name != some "type"
      if Json.holdableMembers (Json.roomWithin (depth + 1)) others then
        ofMembers? label others
      else
        none
  | .array (label :: items) => do
      let label ← Json.text? label
      if Json.holdableItems (Json.roomWithin (depth + 1)) items then
        ofItems? label items
      else
        none
  | _ => none

/-- The members beside the tier. -/
def detailJson : Reason → List (String × Json)
  | .ruleMatch index => [("rule_index", .nat index)]
  | _ => []

end Reason

instance : Wire Reason where
  toJson reason := .record (("type", .text reason.label) :: reason.detailJson)
  ofJson? := Reason.ofJsonWithin? 0

namespace Resolution

/-- The parts of a resolution. -/
def fields : List Json.Field :=
  [⟨"value", false⟩, ⟨"reason", false⟩]

end Resolution

instance : Wire Resolution where
  toJson resolution :=
    .record [("value", Wire.toJson resolution.value), ("reason", Wire.toJson resolution.reason)]
  ofJson? json :=
    match Json.fields? Resolution.fields json with
    | some [value, reason] => do
        return ⟨← Wire.required? value, ← Json.required (Reason.ofJsonWithin? 1) reason⟩
    | _ => none

namespace Exposure

/-- The parts of an exposure record. -/
def fields : List Json.Field :=
  [⟨"environment", false⟩, ⟨"flagKey", false⟩, ⟨"value", false⟩, ⟨"reason", false⟩,
    ⟨"userId", false⟩, ⟨"tenantId", false⟩, ⟨"timestamp", false⟩]

end Exposure

instance : Wire Exposure where
  toJson record :=
    .record
      [("environment", Wire.toJson record.environment),
        ("flagKey", Wire.toJson record.key),
        ("value", Wire.toJson record.value),
        ("reason", Wire.toJson record.reason),
        ("userId", Wire.optional record.userId),
        ("tenantId", Wire.optional record.tenantId),
        ("timestamp", Wire.toJson record.timestamp)]
  ofJson? json :=
    match Json.fields? Exposure.fields json with
    | some [environment, key, value, reason, userId, tenantId, timestamp] => do
        return {
          environment := ← Wire.required? environment
          key := ← Wire.required? key
          value := ← Wire.required? value
          reason := ← Json.required (Reason.ofJsonWithin? 1) reason
          userId := ← Wire.nullable? userId
          tenantId := ← Wire.nullable? tenantId
          timestamp := ← Wire.required? timestamp
        }
    | _ => none

end Switchboard
