import Switchboard.Proofs.Time.StoredOrder

namespace Switchboard

/-!
# Days counted through the calendar

A date is a year, a month and a day of the month; what passes in time are days.  The
number of a day is counted through the lengths of the years and months before it.  The
next day of the calendar has the next number, and dates stand in the order of their
numbers, so the order of instants by their fields is their order in time.
-/

/-- The number of days of a year. -/
def daysInYear (year : Int) : Nat :=
  if isLeapYear year then 366 else 365

/-- The number of days of a year before a month. -/
def daysBeforeMonth (year : Int) : Nat → Nat
  | 0 | 1 => 0
  | month + 2 => daysBeforeMonth year (month + 1) + daysInMonth year (month + 1)

/-- The number of days before a year, counted from the first of January of the year 1. -/
def daysBeforeYear (year : Int) : Int :=
  365 * (year - 1) + (year - 1) / 4 - (year - 1) / 100 + (year - 1) / 400

private theorem daysBeforeYear_succ (year : Int) :
    daysBeforeYear (year + 1) = daysBeforeYear year + daysInYear year := by
  have leap : isLeapYear year = true ↔ year % 4 = 0 ∧ (year % 100 ≠ 0 ∨ year % 400 = 0) := by
    simp [isLeapYear]
  unfold daysBeforeYear daysInYear
  split
  · rename_i isLeap
    have rule := leap.mp isLeap
    omega
  · rename_i notLeap
    have rule := mt leap.mpr notLeap
    omega

private theorem daysBeforeYear_mono {earlier later : Int} (ordered : earlier ≤ later) :
    daysBeforeYear earlier ≤ daysBeforeYear later := by
  unfold daysBeforeYear
  omega

private theorem daysBeforeMonth_succ (year : Int) {month : Nat} (positive : 1 ≤ month) :
    daysBeforeMonth year (month + 1) = daysBeforeMonth year month + daysInMonth year month := by
  obtain ⟨before, rfl⟩ := Nat.exists_eq_add_of_le' positive
  rfl

private theorem daysBeforeMonth_mono (year : Int) {earlier later : Nat}
    (ordered : earlier ≤ later) :
    daysBeforeMonth year earlier ≤ daysBeforeMonth year later := by
  induction ordered with
  | refl => exact Nat.le_refl _
  | @step month _ inductionHypothesis =>
      cases month with
      | zero => exact inductionHypothesis
      | succ month =>
          rw [daysBeforeMonth_succ year (Nat.succ_pos month)]
          exact Nat.le_add_right_of_le inductionHypothesis

private theorem daysBeforeMonth_thirteen (year : Int) :
    daysBeforeMonth year 13 = daysInYear year := by
  unfold daysInYear
  cases isLeap : isLeapYear year with
  | false => simp [daysBeforeMonth, daysInMonth, isLeap]
  | true => simp [daysBeforeMonth, daysInMonth, isLeap]

namespace Date

/-- The day of the year, from 1. -/
def ordinal (date : Date) : Nat :=
  daysBeforeMonth date.year date.month + date.day

/-- The number of a day; the first of January of the year 1 has the number 1. -/
def dayNumber (date : Date) : Int :=
  daysBeforeYear date.year + date.ordinal

variable {first second : Date}

/-- A month ends before a later month of its year begins. -/
private theorem ordinal_le_daysBeforeMonth (date : Date) {later : Nat}
    (isLater : date.month < later) : date.ordinal ≤ daysBeforeMonth date.year later := by
  obtain ⟨_, monthBounds, dayBounds⟩ := date.inCalendar
  calc date.ordinal
      ≤ daysBeforeMonth date.year date.month + daysInMonth date.year date.month :=
        Nat.add_le_add_left dayBounds.2 _
    _ = daysBeforeMonth date.year (date.month + 1) :=
        (daysBeforeMonth_succ _ monthBounds.1).symm
    _ ≤ daysBeforeMonth date.year later := daysBeforeMonth_mono _ isLater

/-- The days of a year are counted from 1 to the length of the year. -/
theorem ordinal_bounds (date : Date) :
    1 ≤ date.ordinal ∧ date.ordinal ≤ daysInYear date.year := by
  obtain ⟨_, monthBounds, dayBounds⟩ := date.inCalendar
  constructor
  · exact Nat.le_add_left_of_le dayBounds.1
  · rw [← daysBeforeMonth_thirteen]
    exact date.ordinal_le_daysBeforeMonth (by omega)

/-- A day of an earlier year has a smaller number. -/
private theorem dayNumber_lt_of_year_lt (earlier : first.year < second.year) :
    first.dayNumber < second.dayNumber := by
  have inYear := first.ordinal_bounds.2
  have positive := second.ordinal_bounds.1
  have next := daysBeforeYear_succ first.year
  have years : daysBeforeYear (first.year + 1) ≤ daysBeforeYear second.year :=
    daysBeforeYear_mono earlier
  unfold dayNumber
  omega

/-- A day of an earlier month of the same year has a smaller number. -/
private theorem dayNumber_lt_of_month_lt (sameYear : first.year = second.year)
    (earlier : first.month < second.month) : first.dayNumber < second.dayNumber := by
  have positive := second.inCalendar.2.2.1
  have months := first.ordinal_le_daysBeforeMonth earlier
  rw [sameYear] at months
  have counted : second.ordinal = daysBeforeMonth second.year second.month + second.day := rfl
  unfold dayNumber
  rw [sameYear]
  omega

/-- An earlier day of the same month has a smaller number. -/
private theorem dayNumber_lt_of_day_lt (sameYear : first.year = second.year)
    (sameMonth : first.month = second.month) (earlier : first.day < second.day) :
    first.dayNumber < second.dayNumber := by
  unfold dayNumber ordinal
  rw [sameYear, sameMonth]
  omega

private theorem dayNumber_lt_dayNumber (earlier : first.place < second.place) :
    first.dayNumber < second.dayNumber := by
  rcases place_lt_iff.mp earlier with years | ⟨sameYear, months | ⟨sameMonth, days⟩⟩
  · exact dayNumber_lt_of_year_lt years
  · exact dayNumber_lt_of_month_lt sameYear months
  · exact dayNumber_lt_of_day_lt sameYear sameMonth days

/-- Days stand in the order of their numbers. -/
theorem dayNumber_lt_iff : first.dayNumber < second.dayNumber ↔ first.place < second.place := by
  constructor
  · intro earlier
    rcases Int.lt_trichotomy first.place second.place with places | same | places
    · exact places
    · rw [place_inj.mp same] at earlier
      exact absurd earlier (Int.lt_irrefl _)
    · exact absurd earlier (Int.lt_asymm (dayNumber_lt_dayNumber places))
  · exact dayNumber_lt_dayNumber

/-- The last day of a month is the one after which the month has no other. -/
private theorem day_eq_of_none {date : Date}
    (noDay : of? date.year date.month (date.day + 1) = none) :
    date.day = daysInMonth date.year date.month := by
  obtain ⟨yearBounds, monthBounds, dayBounds⟩ := date.inCalendar
  unfold of? at noDay
  split at noDay
  · cases noDay
  · rename_i outside
    omega

/-- The last month of a year is the one after which the year has no other. -/
private theorem month_eq_of_none {date : Date}
    (noMonth : of? date.year (date.month + 1) 1 = none) : date.month = 12 := by
  obtain ⟨yearBounds, monthBounds, dayBounds⟩ := date.inCalendar
  have firstDay := daysInMonth_pos date.year (date.month + 1)
  unfold of? at noMonth
  split at noMonth
  · cases noMonth
  · rename_i outside
    omega

/-- The next day of the calendar has the next number. -/
theorem dayNumber_next {date later : Date} (next : date.next? = some later) :
    later.dayNumber = date.dayNumber + 1 := by
  have endOfMonth := daysBeforeMonth_succ date.year date.inCalendar.2.1.1
  unfold next? at next
  simp only [Option.orElse_eq_or, Option.or_eq_some_iff] at next
  rcases next with nextDay | ⟨noDay, nextMonth | ⟨noMonth, nextYear⟩⟩
  · obtain ⟨sameYear, sameMonth, laterDay⟩ := of?_eq_some_iff.mp nextDay
    unfold dayNumber ordinal
    rw [sameYear, sameMonth, laterDay]
    omega
  · obtain ⟨sameYear, laterMonth, firstDay⟩ := of?_eq_some_iff.mp nextMonth
    have lastDay := day_eq_of_none noDay
    unfold dayNumber ordinal
    rw [sameYear, laterMonth, firstDay, endOfMonth, lastDay]
    omega
  · obtain ⟨laterYear, firstMonth, firstDay⟩ := of?_eq_some_iff.mp nextYear
    have lastDay := day_eq_of_none noDay
    have december := month_eq_of_none noMonth
    have endOfYear : daysBeforeMonth date.year (12 + 1) = daysInYear date.year :=
      daysBeforeMonth_thirteen date.year
    rw [december] at lastDay endOfMonth
    have newYear : daysBeforeMonth (date.year + 1) 1 = 0 := rfl
    unfold dayNumber ordinal
    rw [laterYear, firstMonth, firstDay, december, lastDay, daysBeforeYear_succ, newYear]
    omega

example : ((of? 1969 12 31).bind next?).map dayNumber = some 719163 := by
  decide

/-- The next day of the calendar stands behind. -/
theorem place_lt_place_next {date later : Date} (next : date.next? = some later) :
    date.place < later.place := by
  rw [← dayNumber_lt_iff, dayNumber_next next]
  exact Int.lt_succ _

end Date

namespace Instant

variable {first second : Instant}

/--
The place of an instant in time: by the number of its day, then by its place within the
day, where each second has room for the leap second that may follow it.
-/
def moment (instant : Instant) : Int :=
  instant.date.dayNumber * 172800000000000 + instant.placeInDay

/-- An instant comes before another exactly when its place in time does. -/
theorem lt_iff_moment : first < second ↔ first.moment < second.moment := by
  have before : first.date.dayNumber < second.date.dayNumber ↔
      first.date.place < second.date.place := Date.dayNumber_lt_iff
  have behind : second.date.dayNumber < first.date.dayNumber ↔
      second.date.place < first.date.place := Date.dayNumber_lt_iff
  have firstPlace := first.placeInDay_lt
  have secondPlace := second.placeInDay_lt
  rw [lt_iff_place, ← Date.place_inj]
  unfold moment
  omega

end Instant

end Switchboard
