import Switchboard.Text.Digits
import Switchboard.Time.Instant

namespace Switchboard

/-!
# Written instants

The three texts of an instant.  The wire form and the log form have the fewest of
0, 3, 6 or 9 fraction digits that are exact; the stored form always has six, cut
off and not rounded, so that all stored texts of four digit years have one length.
-/

namespace Date

/-- A year in at least four digits, with a sign outside the years 0 to 9999. -/
def yearText (year : Int) : List Char :=
  if 0 ≤ year ∧ year ≤ 9999 then Text.padded 4 year.toNat
  else (if year < 0 then '-' else '+') :: Text.padded 4 year.natAbs

/-- A date with its fields from the year down. -/
def written (date : Date) : List Char :=
  yearText date.year ++ '-' :: Text.padded 2 date.month ++ '-' :: Text.padded 2 date.day

end Date

namespace Instant

/-- The second of the minute that a clock shows; a leap second counts as the sixtieth. -/
def shownSecond (instant : Instant) : Nat :=
  instant.second % 60 + instant.nano / 1000000000

/-- The time of day in hours, minutes and seconds. -/
def clock (instant : Instant) : List Char :=
  Text.padded 2 (instant.second / 3600) ++ ':' :: Text.padded 2 (instant.second / 60 % 60) ++
    ':' :: Text.padded 2 instant.shownSecond

/-- The fraction of the second in the fewest of 0, 3, 6 or 9 digits that are exact. -/
def shortestFraction (instant : Instant) : List Char :=
  let nano := instant.nano % 1000000000
  if nano = 0 then []
  else if nano % 1000000 = 0 then '.' :: Text.padded 3 (nano / 1000000)
  else if nano % 1000 = 0 then '.' :: Text.padded 6 (nano / 1000)
  else '.' :: Text.padded 9 nano

/-- The fraction of the second in six digits. -/
def microFraction (instant : Instant) : List Char :=
  '.' :: Text.padded 6 (instant.nano % 1000000000 / 1000)

/-- The form of an instant on the wire. -/
def toWire (instant : Instant) : String :=
  String.ofList (instant.date.written ++ 'T' :: instant.clock ++ instant.shortestFraction ++ ['Z'])

/-- The form of an instant in a table. -/
def toStored (instant : Instant) : String :=
  String.ofList (instant.date.written ++ 'T' :: instant.clock ++ instant.microFraction ++ ['Z'])

/-- The form of an instant in a log line. -/
def toLog (instant : Instant) : String :=
  String.ofList
    (instant.date.written ++ ' ' :: instant.clock ++ instant.shortestFraction ++ " UTC".toList)

end Instant

end Switchboard
