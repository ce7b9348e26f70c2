import Switchboard.Json.Basic

namespace Switchboard.Json

/-!
# Reading JSON texts

A reader of the standard's grammar and no more: no comments, no trailing commas,
no leading zeros, nothing after the value but blanks.  `parse` takes the whole
text; the functions before it take a leading part and give the rest.
-/

/-- The blanks that may stand between the parts of a JSON text. -/
def isSpace (c : Char) : Bool :=
  c == ' ' || c == '\n' || c == '\t' || c == '\r'

/-- Skip blanks. -/
def skipSpace (text : List Char) : List Char :=
  text.dropWhile isSpace

/-- The rest of a text after a literal that it must start with. -/
def keyword? : List Char → List Char → Option (List Char)
  | [], text => some text
  | _ :: _, [] => none
  | expected :: keywordRest, c :: rest =>
      if c = expected then keyword? keywordRest rest else none

/-- The code unit that four hexadecimal digits name. -/
def codeUnit? (a b c d : Char) : Option Nat :=
  Text.hexadecimalValue? [a, b, c, d]

/-- A unit that opens a surrogate pair. -/
def isHighSurrogate (unit : Nat) : Bool :=
  0xD800 ≤ unit && unit < 0xDC00

/-- A unit that closes a surrogate pair. -/
def isLowSurrogate (unit : Nat) : Bool :=
  0xDC00 ≤ unit && unit < 0xE000

/-- The character of a surrogate pair. -/
def pairedChar (high low : Nat) : Char :=
  Char.ofNat (0x10000 + (high - 0xD800) * 0x400 + (low - 0xDC00))

/-- The character after a backslash that stands for itself or for a control. -/
def shortEscape? (c : Char) : Option Char :=
  if c = '"' ∨ c = '\\' ∨ c = '/' then some c
  else if c = 'b' then some '\x08'
  else if c = 'f' then some '\x0c'
  else if c = 'n' then some '\n'
  else if c = 'r' then some '\r'
  else if c = 't' then some '\t'
  else none

/--
The first item of a string literal: a character, or nothing where it names half of
a surrogate pair; and what follows the item.
-/
def literalItem? : List Char → Option (Option Char × List Char)
  | [] => none
  | '\\' :: 'u' :: a :: b :: c :: d :: rest => do
      let unit ← codeUnit? a b c d
      if isHighSurrogate unit then
        match rest with
        | '\\' :: 'u' :: e :: f :: g :: h :: afterPair =>
            match codeUnit? e f g h with
            | some low =>
                if isLowSurrogate low then some (some (pairedChar unit low), afterPair)
                else some (none, rest)
            | none => some (none, rest)
        | _ => some (none, rest)
      else if isLowSurrogate unit then some (none, rest)
      else some (some (Char.ofNat unit), rest)
  | '\\' :: c :: rest => do
      let c ← shortEscape? c
      some (some c, rest)
  | '\\' :: [] => none
  | c :: rest => if c.toNat < 0x20 then none else some (some c, rest)

/-- An item of a literal takes at least one character. -/
theorem length_lt_of_literalItem {text rest : List Char} {item : Option Char}
    (read : literalItem? text = some (item, rest)) : rest.length < text.length := by
  unfold literalItem? at read
  split at read
  · simp at read
  · rename_i a b c d tail
    cases unitRead : codeUnit? a b c d with
    | none => simp [unitRead] at read
    | some unit =>
        simp only [unitRead, Option.bind_eq_bind, Option.bind_some] at read
        repeat' split at read
        all_goals
          simp only [Option.some.injEq, Prod.mk.injEq] at read
          obtain ⟨_, rfl⟩ := read
          simp only [List.length_cons]
          omega
  · rename_i c tail _
    cases escape : shortEscape? c with
    | none => simp [escape] at read
    | some value =>
        simp only [escape, Option.bind_eq_bind, Option.bind_some, Option.some.injEq,
          Prod.mk.injEq] at read
        obtain ⟨_, rfl⟩ := read
        simp only [List.length_cons]
        omega
  · simp at read
  · split at read
    · simp at read
    · simp only [Option.some.injEq, Prod.mk.injEq] at read
      obtain ⟨_, rfl⟩ := read
      simp

/--
The characters of a string literal whose opening mark is behind, `none` among them
for each half of a surrogate pair; and what follows the closing mark.
-/
def literalTail? (text : List Char) : Option (List (Option Char) × List Char) :=
  if text.head? = some '"' then some ([], text.tail)
  else
    match _next : literalItem? text with
    | none => none
    | some (item, rest) =>
        match literalTail? rest with
        | none => none
        | some (items, afterLiteral) => some (item :: items, afterLiteral)
termination_by text.length
decreasing_by exact length_lt_of_literalItem _next

/-- The text that the items of a literal denote, if none is half of a surrogate pair. -/
def literalText (items : List (Option Char)) : Option String :=
  (items.mapM id).map String.ofList

/-- The string of a literal whose opening mark is behind, and the rest. -/
def stringTail? (text : List Char) : Option (Option String × List Char) :=
  (literalTail? text).map fun (items, rest) => (literalText items, rest)

/-- The digits of the integer part: a zero alone, or digits that start with another. -/
def wholeDigits? (text : List Char) : Option (List Char × List Char) :=
  match Text.spanDigits text with
  | ([], _) => none
  | (['0'], rest) => some (['0'], rest)
  | ('0' :: _, _) => none
  | (digits, rest) => some (digits, rest)

/-- The digits of a fraction behind a point, none where there is no point. -/
def fractionDigits? (text : List Char) : Option (List Char × List Char) :=
  match text with
  | '.' :: rest =>
      match Text.spanDigits rest with
      | ([], _) => none
      | (digits, rest) => some (digits, rest)
  | _ => some ([], text)

/-- The digits of an exponent behind its sign. -/
def exponentDigits? (negative : Bool) (text : List Char) : Option (Option Int × List Char) :=
  match Text.spanDigits text with
  | ([], _) => none
  | (digits, rest) =>
      let size : Int := Text.decimalValue digits
      some (some (if negative then -size else size), rest)

/-- The exponent of a number, if it has one. -/
def exponent? (text : List Char) : Option (Option Int × List Char) :=
  match text with
  | c :: rest =>
      if c = 'e' ∨ c = 'E' then
        match rest with
        | '+' :: rest => exponentDigits? false rest
        | '-' :: rest => exponentDigits? true rest
        | _ => exponentDigits? false rest
      else some (none, text)
  | [] => some (none, text)

/-- The number of its parts. -/
def Number.ofParts
    (negative : Bool)
    (whole fraction : List Char)
    (exponent : Option Int) :
    Number :=
  let significand := Text.decimalValue (whole ++ fraction)
  if fraction = [] ∧ exponent = none ∧ ¬(negative = true ∧ significand = 0) then
    .integer (if negative then -(significand : Int) else significand)
  else
    .scaled negative significand (exponent.getD 0 - fraction.length)

/-- A number behind its sign. -/
def unsignedNumber? (negative : Bool) (text : List Char) : Option (Number × List Char) := do
  let (whole, rest) ← wholeDigits? text
  let (fraction, rest) ← fractionDigits? rest
  let (exponent, rest) ← exponent? rest
  some (Number.ofParts negative whole fraction exponent, rest)

/-- A number. -/
def number? (text : List Char) : Option (Number × List Char) :=
  match text with
  | '-' :: rest => unsignedNumber? true rest
  | _ => unsignedNumber? false text

mutual

/-- A value behind optional blanks; the fuel bounds the nested calls. -/
def value? : Nat → List Char → Option (Json × List Char)
  | 0, _ => none
  | fuel + 1, text =>
      match skipSpace text with
      | '\x7b' :: rest =>
          match skipSpace rest with
          | '\x7d' :: rest => some (.object [], rest)
          | rest => (members? fuel rest).map fun (members, rest) => (.object members, rest)
      | '[' :: rest =>
          match skipSpace rest with
          | ']' :: rest => some (.array [], rest)
          | rest => (items? fuel rest).map fun (items, rest) => (.array items, rest)
      | '"' :: rest => (stringTail? rest).map fun (value, rest) => (.string value, rest)
      | 'n' :: rest => (keyword? "ull".toList rest).map fun rest => (.null, rest)
      | 't' :: rest => (keyword? "rue".toList rest).map fun rest => (.bool true, rest)
      | 'f' :: rest => (keyword? "alse".toList rest).map fun rest => (.bool false, rest)
      | rest => (number? rest).map fun (value, rest) => (.number value, rest)

/-- The items of an array up to its closing bracket. -/
def items? : Nat → List Char → Option (List Json × List Char)
  | 0, _ => none
  | fuel + 1, text =>
      match value? fuel text with
      | none => none
      | some (item, rest) =>
          match skipSpace rest with
          | ',' :: rest => (items? fuel rest).map fun (items, rest) => (item :: items, rest)
          | ']' :: rest => some ([item], rest)
          | _ => none

/-- The members of an object up to its closing brace. -/
def members? : Nat → List Char → Option (List (Option String × Json) × List Char)
  | 0, _ => none
  | fuel + 1, text =>
      match skipSpace text with
      | '"' :: rest =>
          match stringTail? rest with
          | none => none
          | some (name, rest) =>
              match skipSpace rest with
              | ':' :: rest =>
                  match value? fuel rest with
                  | none => none
                  | some (value, rest) =>
                      match skipSpace rest with
                      | ',' :: rest =>
                          (members? fuel rest).map fun (members, rest) =>
                            ((name, value) :: members, rest)
                      | '\x7d' :: rest => some ([(name, value)], rest)
                      | _ => none
              | _ => none
      | _ => none

end

/-- The value of a whole text. -/
def parse (text : String) : Option Json :=
  let characters := text.toList
  match value? (2 * characters.length + 2) characters with
  | some (value, rest) => if (skipSpace rest).isEmpty then some value else none
  | none => none

end Switchboard.Json
