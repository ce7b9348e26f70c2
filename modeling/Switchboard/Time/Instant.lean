namespace Switchboard

/-!
# Instants

Calendar dates and instants of the coordinated universal time with nanoseconds
and leap seconds.  An instant is its calendar fields; `Instant.rank` places it on
a line of integers, so that every comparison of instants is one of integers.
-/

/-- A leap year of the Gregorian calendar, extended to all years. -/
def isLeapYear (year : Int) : Bool :=
  year % 4 == 0 && (year % 100 != 0 || year % 400 == 0)

/-- The number of days of a month. -/
def daysInMonth (year : Int) (month : Nat) : Nat :=
  if month = 2 then
    if isLeapYear year then 29 else 28
  else if month = 4 ∨ month = 6 ∨ month = 9 ∨ month = 11 then
    30
  else
    31

/-- Every month has a first day. -/
theorem daysInMonth_pos (year : Int) (month : Nat) : 1 ≤ daysInMonth year month := by
  unfold daysInMonth
  repeat' split
  all_goals decide

/-- A day of the Gregorian calendar between the years -262143 and 262142. -/
structure Date where
  year : Int
  month : Nat
  day : Nat
  inCalendar :
    (-262143 ≤ year ∧ year ≤ 262142) ∧ (1 ≤ month ∧ month ≤ 12) ∧
      (1 ≤ day ∧ day ≤ daysInMonth year month)
  deriving DecidableEq, Repr

namespace Date

/-- The day with the given fields, if the calendar has it. -/
def of? (year : Int) (month day : Nat) : Option Date :=
  if inCalendar :
      (-262143 ≤ year ∧ year ≤ 262142) ∧ (1 ≤ month ∧ month ≤ 12) ∧
        (1 ≤ day ∧ day ≤ daysInMonth year month) then
    some ⟨year, month, day, inCalendar⟩
  else
    none

/-- The day that is found has the given fields, and each day is found by its own. -/
theorem of?_eq_some_iff {year : Int} {month day : Nat} {date : Date} :
    of? year month day = some date ↔ date.year = year ∧ date.month = month ∧ date.day = day := by
  unfold of?
  constructor
  · intro found
    split at found
    · cases found
      exact ⟨rfl, rfl, rfl⟩
    · cases found
  · rintro ⟨rfl, rfl, rfl⟩
    exact dif_pos date.inCalendar

/-- The day after, unless the calendar ends. -/
def next? (date : Date) : Option Date :=
  (of? date.year date.month (date.day + 1)).orElse fun _ =>
    (of? date.year (date.month + 1) 1).orElse fun _ =>
      of? (date.year + 1) 1 1

/-- The day before, unless the calendar begins. -/
def previous? (date : Date) : Option Date :=
  (of? date.year date.month (date.day - 1)).orElse fun _ =>
    (of? date.year (date.month - 1) (daysInMonth date.year (date.month - 1))).orElse fun _ =>
      of? (date.year - 1) 12 31

end Date

/--
An instant: the day, the second of the day, and the nanosecond of the second.  A
nanosecond of a billion or more lies in a leap second that follows the second.  Clocks
and texts know such a second at the end of a minute only, but callers can make instants
that have one after any second.
-/
structure Instant where
  date : Date
  second : Nat
  nano : Nat
  inDay : second < 86400 ∧ nano < 2000000000
  deriving DecidableEq, Repr

namespace Instant

/-- A clock shows the instant: its leap second, if it has one, ends a minute. -/
def IsShown (instant : Instant) : Prop :=
  1000000000 ≤ instant.nano → instant.second % 60 = 59

instance (instant : Instant) : Decidable instant.IsShown :=
  inferInstanceAs (Decidable (_ → _))

/-- The instant with the given fields, if they are in range and a clock shows it. -/
def of? (date : Date) (second nano : Nat) : Option Instant :=
  if inDay : second < 86400 ∧ nano < 2000000000 then
    if (⟨date, second, nano, inDay⟩ : Instant).IsShown then
      some ⟨date, second, nano, inDay⟩
    else
      none
  else
    none

/-- The instant that is found has the given fields, and a clock shows it. -/
theorem of?_eq_some_iff {date : Date} {second nano : Nat} {instant : Instant} :
    of? date second nano = some instant ↔
      (instant.date = date ∧ instant.second = second ∧ instant.nano = nano) ∧
        instant.IsShown := by
  unfold of?
  constructor
  · intro found
    split at found
    · split at found
      · rename_i isShown
        cases found
        exact ⟨⟨rfl, rfl, rfl⟩, isShown⟩
      · cases found
    · cases found
  · rintro ⟨⟨rfl, rfl, rfl⟩, isShown⟩
    rw [dif_pos instant.inDay, if_pos isShown]

/--
The instant that a clock shows whose offset from universal time is `offset`
seconds, less than a day in either direction.
-/
def ofLocal? (date : Date) (second nano : Nat) (offset : Int) : Option Instant :=
  let universal : Int := (second : Int) - offset
  if universal < 0 then do
    of? (← date.previous?) (universal + 86400).toNat nano
  else if universal < 86400 then
    of? date universal.toNat nano
  else do
    of? (← date.next?) (universal - 86400).toNat nano

/--
The place of an instant on the line of integers: its fields as the digits of one
number, each below the base that the next one multiplies by.
-/
def rank (instant : Instant) : Int :=
  (((instant.date.year * 16 + instant.date.month) * 32 + instant.date.day) * 86400 +
    instant.second) * 2000000000 + instant.nano

instance : LT Instant where
  lt first second := first.rank < second.rank

instance : LE Instant where
  le first second := first.rank ≤ second.rank

instance (first second : Instant) : Decidable (first < second) :=
  inferInstanceAs (Decidable (first.rank < second.rank))

instance (first second : Instant) : Decidable (first ≤ second) :=
  inferInstanceAs (Decidable (first.rank ≤ second.rank))

/-- An instant comes before another exactly when its place does. -/
theorem lt_iff_rank {first second : Instant} : first < second ↔ first.rank < second.rank :=
  Iff.rfl

/-- An instant is not after another exactly when its place is not. -/
theorem le_iff_rank {first second : Instant} : first ≤ second ↔ first.rank ≤ second.rank :=
  Iff.rfl

/-- A month has at most 31 days. -/
theorem daysInMonth_le (year : Int) (month : Nat) : daysInMonth year month ≤ 31 := by
  unfold daysInMonth
  split
  · split <;> decide
  · split <;> decide

/-- The instant without what is below a microsecond. -/
def truncateToMicros (instant : Instant) : Instant where
  date := instant.date
  second := instant.second
  nano := instant.nano - instant.nano % 1000
  inDay := ⟨instant.inDay.1, Nat.lt_of_le_of_lt (Nat.sub_le _ _) instant.inDay.2⟩

/-- The first instant of a day. -/
def startOf (date : Date) : Instant :=
  ⟨date, 0, 0, by decide⟩

/-- The next microsecond; on the last day of the calendar the last second stays. -/
def next (instant : Instant) : Instant :=
  let micro :=
    (of? instant.date instant.second (instant.nano + 1000)).filter fun later =>
      later.nano < 1000000000
  (micro.or (of? instant.date (instant.second + 1) 0)).getD
    ((instant.date.next?.map startOf).getD instant)

end Instant

end Switchboard
