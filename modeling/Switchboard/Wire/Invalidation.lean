import Switchboard.Invalidation
import Switchboard.Wire.Override

namespace Switchboard

/-!
# Wire forms of invalidations

An invalidation names its kind under `event` and has its content under `data`.  A
reader that meets the content first sets it aside until it knows the kind.
-/

namespace Invalidation

/-- The parts of the news about a flag. -/
def flagFields : List Json.Field :=
  [⟨"env", false⟩, ⟨"key", false⟩, ⟨"snapshotVersion", false⟩, ⟨"timestamp", false⟩]

/-- The parts of the news about an override. -/
def overrideFields : List Json.Field :=
  [⟨"env", false⟩, ⟨"key", false⟩, ⟨"scopeType", false⟩, ⟨"scopeId", false⟩,
    ⟨"timestamp", false⟩]

/-- The content of an invalidation. -/
def dataJson : Invalidation → Json
  | .flagUpdated environment key version timestamp =>
      .record
        [("env", Wire.toJson environment),
          ("key", Wire.toJson key),
          ("snapshotVersion", Wire.toJson version),
          ("timestamp", Wire.toJson timestamp)]
  | .overrideChanged scope timestamp =>
      .record
        [("env", Wire.toJson scope.environment),
          ("key", Wire.toJson scope.key),
          ("scopeType", Wire.toJson scope.kind),
          ("scopeId", Wire.toJson scope.holder),
          ("timestamp", Wire.toJson timestamp)]

/--
The dimension of a scope in content that was set aside, where an empty object may
stand for null.
-/
def heldKind? : Json → Option ScopeKind
  | .object [(some name, .object [])] => ScopeKind.ofLabel? name
  | json => Wire.ofJson? json

/-- The invalidation of a kind and of its content, which was set aside or not. -/
def ofData? (held : Bool) (event : String) (data : Json) : Option Invalidation :=
  match event with
  | "flag.updated" =>
      match Json.fields? flagFields data with
      | some [environment, key, version, timestamp] => do
          return .flagUpdated (← Wire.required? environment) (← Wire.required? key)
            (← Wire.required? version) (← Wire.required? timestamp)
      | _ => none
  | "override.changed" =>
      match Json.fields? overrideFields data with
      | some [environment, key, kind, holder, timestamp] => do
          let scope : Scope := {
            environment := ← Wire.required? environment
            key := ← Wire.required? key
            kind := ← Json.required (if held then heldKind? else Wire.ofJson?) kind
            holder := ← Wire.required? holder
          }
          return .overrideChanged scope (← Wire.required? timestamp)
      | _ => none
  | _ => none

/-- Whether the first of the two members of an invalidation is its content. -/
def dataComesFirst (members : List (Option String × Json)) : Bool :=
  (members.find? fun (name, _) => name == some "event" || name == some "data").any
    fun (name, _) => name == some "data"

/-- The invalidation of the members of an object. -/
def ofMembers? (members : List (Option String × Json)) : Option Invalidation := do
  let event ← Json.required Json.kindName? (← Json.member? members "event")
  let data ← ← Json.member? members "data"
  let held := dataComesFirst members
  if held && !Json.holdable (Json.roomWithin 1) data then none else ofData? held event data

end Invalidation

instance : Wire Invalidation where
  toJson invalidation :=
    .record [("event", .text invalidation.eventType), ("data", invalidation.dataJson)]
  ofJson?
    | .object members =>
        if Json.keysReadable members then Invalidation.ofMembers? members else none
    | .array [event, data] => do
        Invalidation.ofData? false (← Json.kindName? event) data
    | _ => none

end Switchboard
