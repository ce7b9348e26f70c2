import Switchboard.Proofs.Time.RoundTrip

namespace Switchboard

open Text

/-!
# Stored instants stand in their order

All stored forms of four digit years have one length, and comparing two of them as
texts compares the instants down to the microsecond.  Expiries that are compared as
texts are therefore compared as instants.
-/

private theorem cons_lt_cons_same {c : Char} {first second : List Char} :
    c :: first < c :: second ↔ first < second := by
  simp

/-- Texts that start with numbers of one width compare by the numbers, then by what follows. -/
private theorem padded_append_lt_iff {width first second : Nat} {firstRest secondRest : List Char}
    (positive : 0 < width)
    (firstFits : first < 10 ^ width)
    (secondFits : second < 10 ^ width) :
    padded width first ++ firstRest < padded width second ++ secondRest ↔
      first < second ∨ first = second ∧ firstRest < secondRest := by
  have sameLength : (padded width first).length = (padded width second).length := by
    rw [length_padded positive firstFits, length_padded positive secondFits]
  rw [append_lt_append_iff sameLength, padded_lt_iff positive firstFits secondFits, padded_inj]

namespace Date

/-- The place of a day among the days: its fields as the digits of one number. -/
def place (date : Date) : Int :=
  (date.year * 16 + date.month) * 32 + date.day

/-- Days stand by their years, then by their months, then by the days of the month. -/
theorem place_lt_iff {first second : Date} :
    first.place < second.place ↔
      first.year < second.year ∨
        first.year = second.year ∧
          (first.month < second.month ∨
            first.month = second.month ∧ first.day < second.day) := by
  obtain ⟨_, firstMonth, firstDay⟩ := first.inCalendar
  obtain ⟨_, secondMonth, secondDay⟩ := second.inCalendar
  have firstDays := Instant.daysInMonth_le first.year first.month
  have secondDays := Instant.daysInMonth_le second.year second.month
  unfold place
  omega

/-- Days with the same fields are the same day. -/
theorem eq_iff_fields {first second : Date} :
    first = second ↔
      first.year = second.year ∧ first.month = second.month ∧ first.day = second.day := by
  obtain ⟨year, month, day, _⟩ := first
  obtain ⟨year', month', day', _⟩ := second
  simp only [Date.mk.injEq]

/-- A place says which day it is of. -/
theorem place_inj {first second : Date} : first.place = second.place ↔ first = second := by
  have before : first.place < second.place ↔ _ := place_lt_iff
  have behind : second.place < first.place ↔ _ := place_lt_iff
  rw [eq_iff_fields]
  constructor
  · intro same
    omega
  · rintro ⟨years, months, days⟩
    rw [place, place, years, months, days]

end Date

namespace Instant

/-- The place of an instant within its day, in nanoseconds and leap seconds. -/
def placeInDay (instant : Instant) : Nat :=
  instant.second * 2000000000 + instant.nano

private theorem clock_lt_iff {first second : Instant}
    (firstShown : first.IsShown)
    (secondShown : second.IsShown) :
    (first.second / 3600 < second.second / 3600 ∨
        first.second / 3600 = second.second / 3600 ∧
          (first.second / 60 % 60 < second.second / 60 % 60 ∨
            first.second / 60 % 60 = second.second / 60 % 60 ∧
              (first.shownSecond < second.shownSecond ∨
                first.shownSecond = second.shownSecond ∧
                  first.nano % 1000000000 / 1000 < second.nano % 1000000000 / 1000))) ↔
      first.truncateToMicros.placeInDay < second.truncateToMicros.placeInDay := by
  obtain ⟨firstBound, firstNano⟩ := first.inDay
  obtain ⟨secondBound, secondNano⟩ := second.inDay
  unfold IsShown at firstShown secondShown
  simp only [shownSecond, placeInDay, truncateToMicros]
  omega

/-- The place of an instant on the line of integers is that of its day, then that within it. -/
theorem rank_eq_placeInDay (instant : Instant) :
    instant.rank = instant.date.place * 172800000000000 + instant.placeInDay := by
  simp only [rank, Date.place, placeInDay]
  omega

/-- A day has less places than the day after is away. -/
theorem placeInDay_lt (instant : Instant) : instant.placeInDay < 172800000000000 := by
  obtain ⟨secondBound, nanoBound⟩ := instant.inDay
  unfold placeInDay
  omega

/-- An instant comes before another by its day, or on the same day by its place within it. -/
theorem lt_iff_place {first second : Instant} :
    first < second ↔
      first.date.place < second.date.place ∨
        first.date = second.date ∧ first.placeInDay < second.placeInDay := by
  have firstPlace := first.placeInDay_lt
  have secondPlace := second.placeInDay_lt
  rw [lt_iff_rank, rank_eq_placeInDay, rank_eq_placeInDay, ← Date.place_inj]
  omega

/-- Comparing stored forms as texts compares the instants down to the microsecond. -/
theorem toStored_lt_iff {first second : Instant}
    (firstStorable : first.IsStorable)
    (secondStorable : second.IsStorable) :
    first.toStored < second.toStored ↔ first.truncateToMicros < second.truncateToMicros := by
  obtain ⟨firstLow, firstHigh⟩ := firstStorable.plainYear
  obtain ⟨secondLow, secondHigh⟩ := secondStorable.plainYear
  have firstWidths := first.fitsWidths
  have secondWidths := second.fitsWidths
  have firstMicros : first.nano % 1000000000 / 1000 < 10 ^ 6 := by omega
  have secondMicros : second.nano % 1000000000 / 1000 < 10 ^ 6 := by omega
  have clocks := clock_lt_iff firstStorable.isShown secondStorable.isShown
  have years : first.date.year.toNat < second.date.year.toNat ↔
      first.date.year < second.date.year := by omega
  have sameYear : first.date.year.toNat = second.date.year.toNat ↔
      first.date.year = second.date.year := by omega
  rw [show first.toStored < second.toStored ↔
      first.toStored.toList < second.toStored.toList from Iff.rfl,
    toList_toStored, toList_toStored, yearText_of_hasPlainYear firstStorable.plainYear,
    yearText_of_hasPlainYear secondStorable.plainYear]
  simp only [clockChars, microFraction, List.cons_append, cons_lt_cons_same,
    padded_append_lt_iff (show 0 < 4 by decide) (show first.date.year.toNat < 10 ^ 4 by omega)
      (show second.date.year.toNat < 10 ^ 4 by omega),
    padded_append_lt_iff (by decide) firstWidths.month secondWidths.month,
    padded_append_lt_iff (by decide) firstWidths.day secondWidths.day,
    padded_append_lt_iff (by decide) firstWidths.hour secondWidths.hour,
    padded_append_lt_iff (by decide) firstWidths.minute secondWidths.minute,
    padded_append_lt_iff (by decide) firstWidths.second secondWidths.second,
    padded_append_lt_iff (by decide) firstMicros secondMicros,
    List.lt_irrefl, and_false, or_false, clocks, years, sameYear]
  have firstDate : first.truncateToMicros.date = first.date := rfl
  have secondDate : second.truncateToMicros.date = second.date := rfl
  rw [lt_iff_place, firstDate, secondDate, Date.place_lt_iff, Date.eq_iff_fields]
  simp only [and_or_left, or_assoc, and_assoc]

/-- Stored forms of any instants compare as what a clock shows of these. -/
theorem toStored_lt_iff_of_hasPlainYear {first second : Instant}
    (firstPlain : first.HasPlainYear)
    (secondPlain : second.HasPlainYear) :
    first.toStored < second.toStored ↔
      first.shown.truncateToMicros < second.shown.truncateToMicros := by
  rw [← toStored_shown first, ← toStored_shown second]
  exact toStored_lt_iff firstPlain.isStorable_shown secondPlain.isStorable_shown

/-- What is cut off to the microsecond is storable where the whole instant is. -/
theorem IsStorable.truncateToMicros {instant : Instant} (storable : instant.IsStorable) :
    instant.truncateToMicros.IsStorable :=
  ⟨storable.plainYear, isShown_truncateToMicros.mpr storable.isShown⟩

/-- Whole microseconds stay as they are. -/
theorem truncateToMicros_truncateToMicros (instant : Instant) :
    instant.truncateToMicros.truncateToMicros = instant.truncateToMicros := by
  simp only [truncateToMicros, Instant.mk.injEq, true_and]
  omega

/-- Against an instant of whole microseconds, what is cut off below them does not count. -/
theorem truncateToMicros_lt_truncateToMicros {instant bound : Instant} :
    instant.truncateToMicros < bound.truncateToMicros ↔ instant < bound.truncateToMicros := by
  simp only [lt_iff_rank, rank, Instant.truncateToMicros]
  omega

/-- Stored forms stand in the order of their instants, as far as they show them. -/
theorem toStored_le_toStored {first second : Instant}
    (firstStorable : first.IsStorable)
    (secondStorable : second.IsStorable)
    (ordered : first ≤ second) :
    first.toStored ≤ second.toStored := by
  rw [← Std.not_lt, toStored_lt_iff secondStorable firstStorable,
    truncateToMicros_lt_truncateToMicros]
  simp only [lt_iff_rank, le_iff_rank, rank, Instant.truncateToMicros] at ordered ⊢
  omega

end Instant

end Switchboard
