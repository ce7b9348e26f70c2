import Switchboard.Json.Basic

namespace Switchboard.Json

/-!
# Reading records

The rules by which the readers of the wire types take a value apart.  A record
comes as an object, whose other members do not matter but whose own members must
not repeat, or as an array of its fields in order.  A kind without content comes
as its name, alone or as the only key of an object with a null.
-/

/-- One field of a record; an array may end before it exactly when it is `omissible`. -/
structure Field where
  name : String
  omissible : Bool := false
  deriving DecidableEq, Repr

/-- The value of a field in an object: absent, or there once. -/
def member? (members : List (Option String × Json)) (name : String) : Option (Option Json) :=
  match members.filter fun (key, _) => key == some name with
  | [] => some none
  | [(_, value)] => some (some value)
  | _ => none

/-- Whether every key of an object denotes a text. -/
def keysReadable (members : List (Option String × Json)) : Bool :=
  members.all fun (key, _) => key.isSome

/-- The values of the fields in an array that may end before omissible fields. -/
def positional? : List Field → List Json → Option (List (Option Json))
  | [], [] => some []
  | [], _ :: _ => none
  | field :: fields, [] =>
      if field.omissible then (positional? fields []).map (none :: ·) else none
  | _ :: fields, item :: items => (positional? fields items).map (some item :: ·)

/-- The values of the fields of a record, in the order of the fields. -/
def fields? (fields : List Field) : Json → Option (List (Option Json))
  | .object members =>
      if keysReadable members then fields.mapM fun field => member? members field.name else none
  | .array items => positional? fields items
  | _ => none

/-- A field that must be there. -/
def required (read : Json → Option α) : Option Json → Option α
  | none => none
  | some value => read value

/-- A field whose absence and whose null both mean that there is no value. -/
def nullable (read : Json → Option α) : Option Json → Option (Option α)
  | none => some none
  | some .null => some none
  | some value => (read value).map some

/-- A truth value. -/
def bool? : Json → Option Bool
  | .bool value => some value
  | _ => none

/-- A text. -/
def text? : Json → Option String
  | .string value => value
  | _ => none

/-- An integer between two bounds. -/
def intBetween? (low high : Int) : Json → Option Int
  | .number (.integer value) => if low ≤ value ∧ value ≤ high then some value else none
  | _ => none

/-- A signed integer of 64 bits. -/
def int64? : Json → Option Int :=
  intBetween? (-9223372036854775808) 9223372036854775807

/-- A natural number of at most the given number of bits. -/
def nat? (bits : Nat) (value : Json) : Option Nat :=
  (intBetween? 0 (2 ^ bits - 1) value).map Int.toNat

/-- The double nearest to a number. -/
def float? : Json → Option Float
  | .number (.integer value) =>
      let magnitude := Float.ofScientific value.natAbs false 0
      some (if value < 0 then -magnitude else magnitude)
  | .number (.scaled negative significand exponent) =>
      let magnitude := Float.ofScientific significand (exponent < 0) exponent.natAbs
      some (if negative then -magnitude else magnitude)
  | _ => none

/-- The items of an array, each read. -/
def list? (read : Json → Option α) : Json → Option (List α)
  | .array items => items.mapM read
  | _ => none

/-- The name of a kind without content. -/
def kindName? : Json → Option String
  | .string name => name
  | .object [(name, .null)] => name
  | _ => none

/-- The number of decimal digits of a number. -/
def digitCount (number : Nat) : Nat :=
  (Text.decimal number).length

/-- Whether a number is within the range of a double. -/
def Number.isFinite : Number → Bool
  | .integer value =>
      digitCount value.natAbs ≤ 309 && value.natAbs < 2 ^ (1024 : Nat) - 2 ^ (970 : Nat)
  | .scaled _ significand exponent =>
      significand == 0 ||
        (let places : Int := digitCount significand + exponent
         places ≤ 308 ||
          (places ≤ 309 &&
            (if 0 ≤ exponent then
              significand * 10 ^ exponent.toNat < 2 ^ (1024 : Nat) - 2 ^ (970 : Nat)
             else significand < (2 ^ (1024 : Nat) - 2 ^ (970 : Nat)) * 10 ^ (-exponent).toNat)))

mutual

/--
Whether a value that is set aside before its type is known can be held: it nests at
most `room` deep, its texts are texts and its numbers are within range.
-/
def holdable : Nat → Json → Bool
  | _, .null => true
  | _, .bool _ => true
  | _, .number value => value.isFinite
  | _, .string value => value.isSome
  | 0, .array _ => false
  | room + 1, .array items => holdableItems room items
  | 0, .object _ => false
  | room + 1, .object members => holdableMembers room members

/-- Whether the items of an array can be held. -/
def holdableItems : Nat → List Json → Bool
  | _, [] => true
  | room, item :: rest => holdable room item && holdableItems room rest

/-- Whether the members of an object can be held. -/
def holdableMembers : Nat → List (Option String × Json) → Bool
  | _, [] => true
  | room, (name, value) :: rest =>
      name.isSome && holdable room value && holdableMembers room rest

end

/-- The deepest nesting of a value that is set aside within `depth` open brackets. -/
def roomWithin (depth : Nat) : Nat :=
  127 - depth

end Switchboard.Json
