import Switchboard.Text.Digits

namespace Switchboard

/-!
# JSON values

The values of JSON texts and their writing.  A value keeps what some reader of it
may still refuse: whether a number was written as an integer, and whether the
escapes of a string literal name half of a surrogate pair, so that the literal
denotes no text.
-/

/-- A number as a JSON text has it. -/
inductive Json.Number where
  /-- A number without point and exponent; minus zero is not among them. -/
  | integer (value : Int)
  /-- Any other number, as a significand and a power of ten. -/
  | scaled (negative : Bool) (significand : Nat) (exponent : Int)
  deriving DecidableEq, Repr

/-- A JSON value; a string is `none` where its literal denotes no text. -/
inductive Json where
  | null
  | bool (value : Bool)
  | number (value : Json.Number)
  | string (value : Option String)
  | array (items : List Json)
  | object (members : List (Option String × Json))
  deriving Repr, Inhabited

namespace Json

/-- The string value of a text. -/
def text (value : String) : Json :=
  .string (some value)

/-- The number value of an integer. -/
def int (value : Int) : Json :=
  .number (.integer value)

/-- The number value of a natural number. -/
def nat (value : Nat) : Json :=
  .number (.integer value)

/-- The object with the given members. -/
def record (members : List (String × Json)) : Json :=
  .object (members.map fun (name, value) => (some name, value))

/-- The members of an object whose values are present. -/
def sparse (members : List (String × Option Json)) : Json :=
  record (members.filterMap fun (name, value?) => value?.map fun value => (name, value))

/-- The value of an optional part: null where it is absent. -/
def optional (write : α → Json) : Option α → Json
  | none => .null
  | some value => write value

/-- One character inside a string literal. -/
def escapeChar (c : Char) : List Char :=
  if c = '"' then ['\\', '"']
  else if c = '\\' then ['\\', '\\']
  else if c = '\x08' then ['\\', 'b']
  else if c = '\x0c' then ['\\', 'f']
  else if c = '\n' then ['\\', 'n']
  else if c = '\r' then ['\\', 'r']
  else if c = '\t' then ['\\', 't']
  else if c.toNat < 0x20 then '\\' :: 'u' :: Text.padZeros 4 (Text.hexadecimal c.toNat)
  else [c]

/-- A string literal; one that denotes no text is half of a surrogate pair. -/
def writeString : Option String → List Char
  | none => "\"\\ud800\"".toList
  | some value => '"' :: value.toList.flatMap escapeChar ++ ['"']

/-- The text of a number. -/
def Number.write : Number → List Char
  | .integer value => Text.signedDecimal value
  | .scaled negative significand exponent =>
      (if negative then ['-'] else []) ++ Text.decimal significand ++
        'e' :: Text.signedDecimal exponent

mutual

/-- The shortest text of a value: no blanks, members in their order. -/
def write : Json → List Char
  | .null => "null".toList
  | .bool true => "true".toList
  | .bool false => "false".toList
  | .number value => value.write
  | .string value => writeString value
  | .array items => '[' :: writeItems items ++ [']']
  | .object members => '\x7b' :: writeMembers members ++ ['\x7d']

/-- The items of an array between commas. -/
def writeItems : List Json → List Char
  | [] => []
  | [item] => write item
  | item :: rest => write item ++ ',' :: writeItems rest

/-- The members of an object between commas. -/
def writeMembers : List (Option String × Json) → List Char
  | [] => []
  | [(name, value)] => writeString name ++ ':' :: write value
  | (name, value) :: rest => writeString name ++ ':' :: write value ++ ',' :: writeMembers rest

end

/-- The text of a value. -/
def render (value : Json) : String :=
  String.ofList value.write

end Json

end Switchboard
