import Switchboard.Text.Blank
import Switchboard.Text.Digits
import Switchboard.Time.Instant

namespace Switchboard.Instant

/-!
# Reading instants

Two readers of the same fields.  The strict one takes the form in which tables
hold instants: four digit years, two digits elsewhere, no blanks.  The lenient one
takes what callers write: blanks around the fields, one digit fields, and years of
any length behind a sign.  Both take any offset of less than a day, a small or
capital `t` or a blank between date and time, and a sixtieth second, and both cut
off a fraction after the ninth digit.
-/

/-- Between `least` and `most` leading decimal digits as a number, and the rest. -/
def number? (least most : Nat) (text : List Char) : Option (Nat × List Char) :=
  let digits := (text.take most).takeWhile Char.isDigit
  if least ≤ digits.length then some (Text.decimalValue digits, text.drop digits.length) else none

/-- Any positive number of leading decimal digits as a number, and the rest. -/
def longNumber? (text : List Char) : Option (Nat × List Char) :=
  number? 1 text.length text

/-- The rest of a text after the one character it must start with. -/
def expect? (c : Char) : List Char → Option (List Char)
  | [] => none
  | first :: rest => if first = c then some rest else none

/-- The rest of a text after the character between date and time. -/
def dateTimeGap? : List Char → Option (List Char)
  | [] => none
  | first :: rest => if first = 'T' ∨ first = 't' ∨ first = ' ' then some rest else none

/-- The nanoseconds of an optional fraction, and the rest. -/
def fraction? (text : List Char) : Option (Nat × List Char) :=
  match text with
  | '.' :: rest =>
      let digits := (rest.take 9).takeWhile Char.isDigit
      if digits.isEmpty then none
      else
        some (Text.decimalValue digits * 10 ^ (9 - digits.length),
          (rest.drop digits.length).dropWhile Char.isDigit)
  | _ => some (0, text)

/--
The seconds of an offset, and the rest; `gap` takes what stands between the hours
and the minutes.
-/
def offset?
    (gap : List Char → Option (List Char))
    (text : List Char) :
    Option (Int × List Char) :=
  match text with
  | [] => none
  | first :: rest =>
      if first = 'Z' ∨ first = 'z' then some (0, rest)
      else if first = '+' ∨ first = '-' ∨ first = '\u2212' then do
        let (hours, rest) ← number? 2 2 rest
        let rest ← gap rest
        let (minutes, rest) ← number? 2 2 rest
        if minutes < 60 then
          let seconds : Int := hours * 3600 + minutes * 60
          some (if first = '+' then seconds else -seconds, rest)
        else none
      else none

/-- The instant that the read fields name. -/
def ofFields?
    (year : Int)
    (month day hour minute second nano : Nat)
    (offset : Int) :
    Option Instant := do
  let date ← Date.of? year month day
  if hour < 24 ∧ minute < 60 ∧ second ≤ 60 ∧ -86400 < offset ∧ offset < 86400 then
    if second = 60 then
      ofLocal? date (hour * 3600 + minute * 60 + 59) (1000000000 + nano) offset
    else
      ofLocal? date (hour * 3600 + minute * 60 + second) nano offset
  else none

/-- The instant of a text in the strict form. -/
def readStrict (text : String) : Option Instant := do
  let (year, rest) ← number? 4 4 text.toList
  let (month, rest) ← number? 2 2 (← expect? '-' rest)
  let (day, rest) ← number? 2 2 (← expect? '-' rest)
  let rest ← dateTimeGap? rest
  let (hour, rest) ← number? 2 2 rest
  let (minute, rest) ← number? 2 2 (← expect? ':' rest)
  let (second, rest) ← number? 2 2 (← expect? ':' rest)
  let (nano, rest) ← fraction? rest
  let (offset, rest) ← offset? (expect? ':') rest
  if rest.isEmpty then
    ofFields? year month day hour minute second nano offset
  else none

/-- A year: any number of digits behind a sign, at most four without. -/
def lenientYear? (text : List Char) : Option (Int × List Char) :=
  match text with
  | '-' :: rest => do
      let (year, rest) ← longNumber? rest
      some (-(year : Int), rest)
  | '+' :: rest => do
      let (year, rest) ← longNumber? rest
      some ((year : Int), rest)
  | _ => do
      let (year, rest) ← number? 1 4 text
      some ((year : Int), rest)

/-- A field of one or two digits, blanks in front of it skipped. -/
def lenientField? (text : List Char) : Option (Nat × List Char) :=
  number? 1 2 (Text.trimStart text)

/-- The rest of a text after blanks and the one character that must follow. -/
def lenientExpect? (c : Char) (text : List Char) : Option (List Char) :=
  expect? c (Text.trimStart text)

/-- Colons and blanks in any number. -/
def colonsAndBlanks (text : List Char) : List Char :=
  text.dropWhile fun c => c = ':' || Text.isBlank c

/-- An offset, or the name of universal time in letters of either case. -/
def lenientOffset? (text : List Char) : Option (Int × List Char) :=
  match text with
  | u :: t :: c :: rest =>
      if (u = 'U' ∨ u = 'u') ∧ (t = 'T' ∨ t = 't') ∧ (c = 'C' ∨ c = 'c') then some (0, rest)
      else offset? (fun after => some (colonsAndBlanks after)) text
  | _ => offset? (fun after => some (colonsAndBlanks after)) text

/-- The instant of a text in the lenient form. -/
def readLenient (text : String) : Option Instant := do
  let (year, rest) ← lenientYear? (Text.trimStart text.toList)
  let (month, rest) ← lenientField? (← lenientExpect? '-' rest)
  let (day, rest) ← lenientField? (← lenientExpect? '-' rest)
  let rest ← dateTimeGap? rest
  let (hour, rest) ← lenientField? rest
  let (minute, rest) ← lenientField? (← lenientExpect? ':' rest)
  let (second, rest) ← lenientField? (← lenientExpect? ':' rest)
  let (nano, rest) ← fraction? rest
  let (offset, rest) ← lenientOffset? (Text.trimStart rest)
  if (Text.trimStart rest).isEmpty then
    ofFields? year month day hour minute second nano offset
  else none

end Switchboard.Instant
