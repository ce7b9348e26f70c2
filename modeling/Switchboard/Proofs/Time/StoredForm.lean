import Mathlib.Order.Compare
import Switchboard.Proofs.Text.Bytes
import Switchboard.Proofs.Time.Calendar
import Switchboard.Store.Column

namespace Switchboard

open Text

/-!
# The stored form of instants

Columns keep instants as texts, and the database, which knows no instants, compares the
bytes of these texts.  Main statement: for years of four digits, a column gives the
instant back up to the microsecond, all stored forms have one length, and their bytes
stand in the order in which the instants come in time.
-/

/-- Values that stand to each other as two others do compare as these. -/
private theorem cmp_eq_cmp {α β : Type} [LT α] [LT β] [DecidableLT α] [DecidableLT β]
    {first second : α} {third fourth : β}
    (forward : first < second ↔ third < fourth)
    (backward : second < first ↔ fourth < third) :
    cmp first second = cmp third fourth := by
  simp only [cmp, cmpUsing, forward, backward]

namespace Instant

/-- The characters of a stored form have one byte each, in whatever year. -/
theorem isAscii_toStored (instant : Instant) : IsAscii instant.toStored.toList := by
  have year : IsAscii (Date.yearText instant.date.year) := by
    unfold Date.yearText
    repeat' split
    all_goals simp
  rw [toList_toStored, isAscii_append]
  exact ⟨year, by simp [clockChars, microFraction]⟩

/-- The stored form of a year of four digits has 27 bytes. -/
theorem length_bytes_toStored {instant : Instant} (plainYear : instant.HasPlainYear) :
    (bytes instant.toStored).length = 27 := by
  obtain ⟨yearLow, yearHigh⟩ := id plainYear
  have widths := instant.fitsWidths
  have year : (padded 4 instant.date.year.toNat).length = 4 :=
    length_padded (by decide) (by omega)
  have micros : (padded 6 (instant.nano % 1000000000 / 1000)).length = 6 :=
    length_padded (by decide) (by omega)
  rw [length_bytes, utf8ByteSize_of_isAscii instant.isAscii_toStored, toList_toStored,
    yearText_of_hasPlainYear plainYear]
  simp [clockChars, microFraction, year, micros, length_padded _ widths.month,
    length_padded _ widths.day, length_padded _ widths.hour, length_padded _ widths.minute,
    length_padded _ widths.second]

/-- Byte by byte, stored forms compare as what clocks show does down to the microsecond. -/
theorem cmp_bytes_toStored {first second : Instant}
    (firstPlain : first.HasPlainYear)
    (secondPlain : second.HasPlainYear) :
    cmp (bytes first.toStored) (bytes second.toStored) =
      cmp first.shown.truncateToMicros second.shown.truncateToMicros := by
  apply cmp_eq_cmp
  · rw [bytes_lt_bytes_iff, toStored_lt_iff_of_hasPlainYear firstPlain secondPlain]
  · rw [bytes_lt_bytes_iff, toStored_lt_iff_of_hasPlainYear secondPlain firstPlain]

/--
For instants in years of four digits, at any nanosecond and within leap seconds: a column
reads the stored form back as what a clock shows, cut off to the microsecond, every stored
form has 27 bytes, and comparing two stored forms byte by byte gives what comparing what
clocks show gives, cut off likewise, which is the order of their places in time.  A clock
shows the instant itself unless it lies in a leap second within a minute.
-/
theorem stored_forms_read_back_and_sort (column : String) {first second : Instant}
    (firstPlain : first.HasPlainYear)
    (secondPlain : second.HasPlainYear) :
    storedInstant column first.toStored = .ok first.shown.truncateToMicros ∧
      (bytes first.toStored).length = 27 ∧
        cmp (bytes first.toStored) (bytes second.toStored) =
            cmp first.shown.truncateToMicros second.shown.truncateToMicros ∧
          cmp first.shown.truncateToMicros second.shown.truncateToMicros =
              cmp first.shown.truncateToMicros.moment second.shown.truncateToMicros.moment ∧
            (first.shown = first ↔ first.IsShown) := by
  refine ⟨?_, ?_, ?_, ?_, ?_⟩
  · rw [storedInstant, readStrict_toStored_of_hasPlainYear firstPlain]
  · exact length_bytes_toStored firstPlain
  · exact cmp_bytes_toStored firstPlain secondPlain
  · exact cmp_eq_cmp lt_iff_moment lt_iff_moment
  · exact shown_eq_self_iff

/-- An instant in the last microsecond of the leap second at the end of June 2015. -/
def leapSecondEnd : Instant :=
  ⟨.leapDay, 86399, 1999999875, by decide⟩

/-- The first instant of the second after it. -/
def firstOfJuly : Instant :=
  .startOf ⟨2015, 7, 1, by decide⟩

/-- A leap second is stored as the sixtieth, and stands before the first second of the month. -/
theorem stored_forms_read_back_and_sort_leapSecond :
    leapSecondEnd.HasPlainYear ∧ firstOfJuly.HasPlainYear ∧
      leapSecondEnd.toStored = "2015-06-30T23:59:60.999999Z" ∧
        storedInstant "expires_at" leapSecondEnd.toStored =
            .ok leapSecondEnd.truncateToMicros ∧
          (bytes leapSecondEnd.toStored).length = 27 ∧
            cmp (bytes leapSecondEnd.toStored) (bytes firstOfJuly.toStored) = .lt ∧
              cmp leapSecondEnd.truncateToMicros.moment firstOfJuly.truncateToMicros.moment =
                .lt := by
  have plainYear : leapSecondEnd.HasPlainYear := by decide
  have plainYearNext : firstOfJuly.HasPlainYear := by decide
  have inOrder : cmp leapSecondEnd.truncateToMicros firstOfJuly.truncateToMicros = .lt := by
    decide
  obtain ⟨readBack, size, byBytes, inTime, shows⟩ :=
    stored_forms_read_back_and_sort "expires_at" plainYear plainYearNext
  have isItself : leapSecondEnd.shown = leapSecondEnd := shows.mpr (by decide)
  have isItselfNext : firstOfJuly.shown = firstOfJuly := shown_of_isShown (by decide)
  rw [isItself] at readBack
  rw [isItself, isItselfNext] at byBytes inTime
  exact ⟨plainYear, plainYearNext, by decide, readBack, size, byBytes.trans inOrder,
    inTime.symm.trans inOrder⟩

/--
A leap second within a minute is read back as another instant, and its stored form stands
behind that of an instant after it.
-/
theorem stored_forms_miss_leapSecond_withinMinute :
    withinMinute.HasPlainYear ∧ fifthSecond.HasPlainYear ∧
      storedInstant "expires_at" withinMinute.toStored ≠ .ok withinMinute.truncateToMicros ∧
        cmp (bytes withinMinute.toStored) (bytes fifthSecond.toStored) = .gt ∧
          cmp withinMinute.truncateToMicros fifthSecond.truncateToMicros = .lt := by
  have plainYear : withinMinute.HasPlainYear := by decide
  have plainYearNext : fifthSecond.HasPlainYear := by decide
  refine ⟨plainYear, plainYearNext, ?_, ?_, by decide⟩
  · rw [storedInstant, readStrict_toStored_of_hasPlainYear plainYear]
    decide
  · rw [cmp_bytes_toStored plainYear plainYearNext]
    decide

end Instant

end Switchboard
