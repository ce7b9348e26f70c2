import Switchboard.Time.Reader
import Switchboard.Toml.Basic

namespace Switchboard.Toml

/-!
# Numbers, dates and times

Integers of 64 bits in four bases, floats, and the four forms of dates and times.
Digits may be parted by single underscores.  A float beyond the range of doubles is
refused, unless it is negative.
-/

/-- Digits that go on a run of digits: an underscore must stand between two of them. -/
def moreDigits (isDigit : Char → Bool) : List Char → List Char × List Char
  | [] => ([], [])
  | '_' :: c :: rest =>
      if isDigit c then
        let (digits, rest) := moreDigits isDigit rest
        (c :: digits, rest)
      else ([], '_' :: c :: rest)
  | c :: rest =>
      if isDigit c then
        let (digits, rest) := moreDigits isDigit rest
        (c :: digits, rest)
      else ([], c :: rest)

/-- A run of digits without its underscores, and the rest. -/
def digits? (isDigit : Char → Bool) : List Char → Option (List Char × List Char)
  | [] => none
  | c :: rest =>
      if isDigit c then
        let (digits, rest) := moreDigits isDigit rest
        some (c :: digits, rest)
      else none

/-- The digits of a whole number: a zero alone, or digits that start with another. -/
def whole? : List Char → Option (List Char × List Char)
  | '0' :: rest => some (['0'], rest)
  | text => digits? Char.isDigit text

/-- Whether a sign is a minus, and the rest of the text after an optional sign. -/
def sign : List Char → Bool × List Char
  | '-' :: rest => (true, rest)
  | '+' :: rest => (false, rest)
  | text => (false, text)

/-- The value of digits in a base, if every one of them is in the range of the base. -/
def valueIn (base : Nat) (digits : List Char) : Nat :=
  digits.foldl (fun total c => total * base + (Text.hexValue? c).getD 0) 0

/-- A digit of a base of at most sixteen. -/
def isDigitIn (base : Nat) (c : Char) : Bool :=
  (Text.hexValue? c).any fun value => value < base

/-- The integer of 64 bits with a value. -/
def inRange (value : Int) : Option Toml :=
  if -9223372036854775808 ≤ value ∧ value ≤ 9223372036854775807 then some (.integer value)
  else none

/-- A natural number in a base. -/
def based? (base : Nat) (text : List Char) : Option (Toml × List Char) := do
  let (digits, rest) ← digits? (isDigitIn base) text
  let value ← inRange (valueIn base digits)
  some (value, rest)

/-- An integer. -/
def integer? (text : List Char) : Option (Toml × List Char) :=
  match text with
  | '0' :: 'x' :: rest => based? 16 rest
  | '0' :: 'o' :: rest => based? 8 rest
  | '0' :: 'b' :: rest => based? 2 rest
  | _ => do
      let (negative, rest) := sign text
      let (digits, rest) ← whole? rest
      let size : Int := Text.decimalValue digits
      let value ← inRange (if negative then -size else size)
      some (value, rest)

/-- The leading part of a text whose rest is given. -/
def before (text rest : List Char) : String :=
  String.ofList (text.take (text.length - rest.length))

/-- The least number that is rounded beyond the range of doubles. -/
def beyondDoubles : Nat :=
  2 ^ (1024 : Nat) - 2 ^ (970 : Nat)

/--
Whether digits, the last of which has the given power of ten, are rounded beyond the
range of doubles.  Only numbers of 309 whole digits have to be compared.
-/
def isBeyondDoubles (digits : List Char) (exponent : Int) : Bool :=
  let significant := digits.dropWhile (· == '0')
  let wholeDigits := significant.length + exponent
  if significant.isEmpty then false
  else if wholeDigits = 309 then
    if 0 ≤ exponent then
      beyondDoubles ≤ Text.decimalValue significant * 10 ^ exponent.toNat
    else
      beyondDoubles * 10 ^ (-exponent).toNat ≤ Text.decimalValue significant
  else 309 < wholeDigits

/-- The digits of a fraction with its point. -/
def fraction? : List Char → Option (List Char × List Char)
  | '.' :: rest => digits? Char.isDigit rest
  | _ => none

/-- The exponent of a float with its mark. -/
def exponent? : List Char → Option (Int × List Char)
  | [] => none
  | mark :: rest =>
      if mark = 'e' ∨ mark = 'E' then do
        let (negative, rest) := sign rest
        let (digits, rest) ← digits? Char.isDigit rest
        let size : Int := Text.decimalValue digits
        some (if negative then -size else size, rest)
      else none

/-- The digits, the power of ten of the last of them and the rest of a float with digits. -/
def decimal? (text : List Char) : Option (List Char × Int × List Char) := do
  let (wholeDigits, rest) ← whole? text
  match fraction? rest with
  | some (fractionDigits, rest) =>
      let (exponent, rest) := (exponent? rest).getD (0, rest)
      some (wholeDigits ++ fractionDigits, exponent - fractionDigits.length, rest)
  | none =>
      let (exponent, rest) ← exponent? rest
      some (wholeDigits, exponent, rest)

/-- A float: digits with a fraction or an exponent or both, infinity, or no number. -/
def float? (text : List Char) : Option (Toml × List Char) :=
  let (negative, unsigned) := sign text
  match unsigned with
  | 'i' :: 'n' :: 'f' :: rest => some (.float (before text rest), rest)
  | 'n' :: 'a' :: 'n' :: rest => some (.float (before text rest), rest)
  | _ => do
      let (digits, exponent, rest) ← decimal? unsigned
      if !negative && isBeyondDoubles digits exponent then none
      else some (.float (before text rest), rest)

/-- A day with four digits for the year. -/
def date? (text : List Char) : Option (List Char) := do
  let (year, rest) ← Instant.number? 4 4 text
  let rest ← Instant.expect? '-' rest
  let (month, rest) ← Instant.number? 2 2 rest
  let rest ← Instant.expect? '-' rest
  let (day, rest) ← Instant.number? 2 2 rest
  let _ ← Date.of? year month day
  some rest

/-- A time of the day; a minute may have a sixtieth second. -/
def time? (text : List Char) : Option (List Char) := do
  let (hour, rest) ← Instant.number? 2 2 text
  let rest ← Instant.expect? ':' rest
  let (minute, rest) ← Instant.number? 2 2 rest
  let rest ← Instant.expect? ':' rest
  let (second, rest) ← Instant.number? 2 2 rest
  if hour < 24 ∧ minute < 60 ∧ second ≤ 60 then
    some (((Instant.fraction? rest).map (·.2)).getD rest)
  else none

/-- The offset of a time. -/
def offset? : List Char → Option (List Char)
  | [] => none
  | first :: rest =>
      if first = 'Z' ∨ first = 'z' then some rest
      else if first = '+' ∨ first = '-' then do
        let (hours, rest) ← Instant.number? 2 2 rest
        let rest ← Instant.expect? ':' rest
        let (minutes, rest) ← Instant.number? 2 2 rest
        if hours < 24 ∧ minutes < 60 then some rest else none
      else none

/-- The time that may follow a date, with the offset that may follow the time. -/
def timeAfterDate? (text : List Char) : Option (List Char) := do
  let rest ← Instant.dateTimeGap? text
  let rest ← time? rest
  some ((offset? rest).getD rest)

/-- A date, a time, or a date with a time and perhaps an offset. -/
def dateTime? (text : List Char) : Option (Toml × List Char) :=
  let rest? :=
    match date? text with
    | some rest => some ((timeAfterDate? rest).getD rest)
    | none => time? text
  rest?.map fun rest => (.dateTime (before text rest), rest)

/-- A number, a date or a time. -/
def scalar? (text : List Char) : Option (Toml × List Char) :=
  (dateTime? text).or ((float? text).or (integer? text))

end Switchboard.Toml
