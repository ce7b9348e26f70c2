import Switchboard.Proofs.Time.Calendar

namespace Switchboard.Instant

/-!
# The calendar moves on

Reading the calendar moves it on by a microsecond at least, so the microseconds
between two readings bound the number of readings between them.  Instants in years of four
digits are fewer microseconds apart than there are versions.
-/

/-- The place of an instant on the line of integers, down to the microsecond. -/
def micros (instant : Instant) : Int :=
  instant.rank / 1000

/-- An instant that is not later has no greater place. -/
theorem micros_le_micros {first second : Instant} (ordered : first ≤ second) :
    first.micros ≤ second.micros := by
  have ranks := le_iff_rank.mp ordered
  unfold micros
  omega

/-- An instant that is not later has no later year. -/
theorem year_le_year {first second : Instant} (ordered : first ≤ second) :
    first.date.year ≤ second.date.year := by
  have notLater : ¬second < first := Int.not_lt.mpr (le_iff_rank.mp ordered)
  rw [lt_iff_place, Date.place_lt_iff] at notLater
  omega

/-- What lies between two instants in years of four digits is in such a year. -/
theorem HasPlainYear.between {first instant last : Instant}
    (firstPlain : first.HasPlainYear)
    (lastPlain : last.HasPlainYear)
    (notBefore : first ≤ instant)
    (notAfter : instant ≤ last) :
    instant.HasPlainYear := by
  have low := year_le_year notBefore
  have high := year_le_year notAfter
  exact ⟨Int.le_trans firstPlain.1 low, Int.le_trans high lastPlain.2⟩

/-- Instants in years of four digits have places that are versions. -/
theorem HasPlainYear.micros_bounds {instant : Instant} (plainYear : instant.HasPlainYear) :
    0 ≤ instant.micros ∧ instant.micros < 9223372036854775807 := by
  obtain ⟨yearLow, yearHigh⟩ := plainYear
  have place := instant.placeInDay_lt
  obtain ⟨_, month, day⟩ := instant.date.inCalendar
  have days := daysInMonth_le instant.date.year instant.date.month
  unfold micros
  rw [rank_eq_placeInDay, Date.place]
  constructor
  · omega
  · omega

private theorem next_ne_none {date : Date} (notLast : date.year ≤ 9999) : date.next? ≠ none := by
  have yearBounds := date.inCalendar.1
  have newYear : Date.of? (date.year + 1) 1 1 ≠ none := by
    unfold Date.of?
    rw [dif_pos ⟨by omega, by decide, by decide, daysInMonth_pos _ _⟩]
    exact Option.some_ne_none _
  intro none
  simp only [Date.next?, Option.orElse_eq_or, Option.or_eq_none_iff] at none
  exact newYear none.2.2

/-- Between two days there is a microsecond at least. -/
private theorem micros_lt_micros_of_place_lt {first second : Instant}
    (earlier : first.date.place < second.date.place) :
    first.micros < second.micros := by
  have inDay := first.placeInDay_lt
  unfold micros
  rw [rank_eq_placeInDay, rank_eq_placeInDay]
  omega

/-- The calendar stays where the last day of all is, and moves on elsewhere. -/
private theorem next_cases (instant : Instant) :
    instant.next = instant ∧ instant.date.next? = none ∨ instant.micros < instant.next.micros := by
  have later {after : Instant} {second nano : Nat}
      (found : of? instant.date second nano = some after)
      (isLater : instant.placeInDay / 1000 < (second * 2000000000 + nano) / 1000) :
      instant.micros < after.micros := by
    obtain ⟨⟨sameDate, rfl, rfl⟩, _⟩ := of?_eq_some_iff.mp found
    unfold micros
    rw [rank_eq_placeInDay, rank_eq_placeInDay, sameDate]
    unfold placeInDay at isLater ⊢
    omega
  unfold next
  cases micro : (of? instant.date instant.second (instant.nano + 1000)).filter fun later =>
      later.nano < 1000000000 with
  | some after =>
      have found := (Option.filter_eq_some_iff.mp micro).1
      exact .inr (later found (by unfold placeInDay; omega))
  | none =>
      cases second : of? instant.date (instant.second + 1) 0 with
      | some after =>
          have nanoBound := instant.inDay.2
          exact .inr (later second (by unfold placeInDay; omega))
      | none =>
          cases next : instant.date.next? with
          | none => exact .inl ⟨rfl, rfl⟩
          | some date =>
              have later : instant.date.place < (startOf date).date.place :=
                Date.place_lt_place_next next
              exact .inr (micros_lt_micros_of_place_lt later)

/-- The next reading of the calendar is later by a microsecond at least. -/
theorem micros_lt_micros_next {instant : Instant} (notLast : instant.date.year ≤ 9999) :
    instant.micros < instant.next.micros := by
  rcases instant.next_cases with ⟨_, lastDay⟩ | later
  · exact absurd lastDay (next_ne_none notLast)
  · exact later

/-- The next reading of the calendar is not earlier. -/
theorem le_next (instant : Instant) : instant ≤ instant.next := by
  rcases instant.next_cases with ⟨stays, _⟩ | later
  · rw [stays]
    exact Int.le_refl _
  · unfold micros at later
    rw [le_iff_rank]
    omega

end Switchboard.Instant
