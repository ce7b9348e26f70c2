import Switchboard.Json.Reader
import Switchboard.Json.Record
import Switchboard.Text.Set
import Switchboard.Time.Reader
import Switchboard.Time.Written

namespace Switchboard

/-!
# Wire forms

The JSON forms in which values travel between instances and are kept in caches.
This module has the forms of texts, truth values, integers, instants, lists and
sets of texts.
-/

/-- A type whose values travel as JSON. -/
class Wire (α : Type) where
  toJson : α → Json
  ofJson? : Json → Option α

namespace Wire

/-- The JSON text of a value. -/
def encode [Wire α] (value : α) : String :=
  (toJson value).render

/-- The value of a JSON text. -/
def decode? [Wire α] (text : String) : Option α :=
  (Json.parse text).bind ofJson?

/-- The form of a value that may be absent: null where it is. -/
def optional [Wire α] (value? : Option α) : Json :=
  Json.optional toJson value?

/-- A part that must be there. -/
def required? [Wire α] (part : Option Json) : Option α :=
  Json.required ofJson? part

/-- A part that may be absent or null. -/
def nullable? [Wire α] (part : Option Json) : Option (Option α) :=
  Json.nullable ofJson? part

instance : Wire String where
  toJson := Json.text
  ofJson? := Json.text?

instance : Wire Bool where
  toJson := Json.bool
  ofJson? := Json.bool?

instance : Wire Int64 where
  toJson value := Json.int value.toInt
  ofJson? json := (Json.int64? json).map Int64.ofInt

instance : Wire UInt8 where
  toJson value := Json.nat value.toNat
  ofJson? json := (Json.nat? 8 json).map UInt8.ofNat

instance : Wire Instant where
  toJson instant := Json.text instant.toWire
  ofJson? json := (Json.text? json).bind Instant.readLenient

instance [Wire α] : Wire (List α) where
  toJson items := .array (items.map toJson)
  ofJson? := Json.list? ofJson?

instance : Wire TextSet where
  toJson set := toJson set.members
  ofJson? json := (ofJson? (α := List String) json).map TextSet.ofList

end Wire

end Switchboard
