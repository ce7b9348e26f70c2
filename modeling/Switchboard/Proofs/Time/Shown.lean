import Switchboard.Time.Written

namespace Switchboard

/-!
# What clocks and texts show of an instant

A leap second that follows a second within a minute is shown as the second after it, since
no clock has a place for it.  The shown instant has the same texts, and it is the instant
itself unless its leap second stands within a minute.
-/

/-- A day that ends with a leap second. -/
def Date.leapDay : Date :=
  ⟨2015, 6, 30, by decide⟩

namespace Instant

/-- The instant that a clock shows. -/
def shown (instant : Instant) : Instant :=
  if within : 1000000000 ≤ instant.nano ∧ instant.second % 60 ≠ 59 then
    { instant with
      second := instant.second + 1
      nano := instant.nano - 1000000000
      inDay := by
        obtain ⟨secondBound, nanoBound⟩ := instant.inDay
        omega }
  else
    instant

variable {instant : Instant}

/-- A shown instant stays as it is. -/
theorem shown_of_isShown (isShown : instant.IsShown) : instant.shown = instant :=
  dif_neg fun within => within.2 (isShown within.1)

/-- What a clock shows is shown. -/
theorem isShown_shown (instant : Instant) : instant.shown.IsShown := by
  have nanoBound := instant.inDay.2
  unfold shown
  split
  · intro leap
    dsimp only at leap
    omega
  · rename_i notWithin
    intro leap
    exact Decidable.byContradiction fun within => notWithin ⟨leap, within⟩

/-- The shown instants are those that stay as they are. -/
theorem shown_eq_self_iff : instant.shown = instant ↔ instant.IsShown :=
  ⟨fun same => same ▸ instant.isShown_shown, shown_of_isShown⟩

/-- An instant in a leap second within a minute, which no clock shows. -/
def withinMinute : Instant :=
  ⟨.leapDay, 86164, 1333333333, by decide⟩

/-- It follows four seconds past 23:56, and is shown as five seconds past. -/
example : withinMinute.toWire = "2015-06-30T23:56:05.333333333Z" ∧
    withinMinute.shown = ⟨.leapDay, 86165, 333333333, by decide⟩ := by
  decide

/-- An instant in the second as which it is shown, earlier in it. -/
def fifthSecond : Instant :=
  ⟨.leapDay, 86165, 200000000, by decide⟩

@[simp] theorem date_shown (instant : Instant) : instant.shown.date = instant.date := by
  unfold shown
  split <;> rfl

/-- The clock stands where it would stand for the shown instant. -/
theorem fields_shown (instant : Instant) :
    instant.shown.second / 3600 = instant.second / 3600 ∧
      instant.shown.second / 60 % 60 = instant.second / 60 % 60 ∧
        instant.shown.shownSecond = instant.shownSecond ∧
          instant.shown.nano % 1000000000 = instant.nano % 1000000000 := by
  have nanoBound := instant.inDay.2
  unfold shown shownSecond
  split
  · refine ⟨?_, ?_, ?_, ?_⟩
    all_goals
      dsimp only
      omega
  · exact ⟨rfl, rfl, rfl, rfl⟩

private theorem clock_shown (instant : Instant) : instant.shown.clock = instant.clock := by
  obtain ⟨hours, minutes, seconds, -⟩ := instant.fields_shown
  rw [clock, clock, hours, minutes, seconds]

/-- The stored form is that of the shown instant. -/
theorem toStored_shown (instant : Instant) : instant.shown.toStored = instant.toStored := by
  obtain ⟨-, -, -, nanos⟩ := instant.fields_shown
  rw [toStored, toStored, clock_shown, date_shown, microFraction, microFraction, nanos]

/-- The wire form is that of the shown instant. -/
theorem toWire_shown (instant : Instant) : instant.shown.toWire = instant.toWire := by
  obtain ⟨-, -, -, nanos⟩ := instant.fields_shown
  rw [toWire, toWire, clock_shown, date_shown, shortestFraction, shortestFraction, nanos]

/-- Cutting off what is below a microsecond leaves a shown instant shown, and no other. -/
theorem isShown_truncateToMicros : instant.truncateToMicros.IsShown ↔ instant.IsShown := by
  have sameLeap : 1000000000 ≤ instant.truncateToMicros.nano ↔ 1000000000 ≤ instant.nano := by
    simp only [truncateToMicros]
    omega
  unfold IsShown
  rw [sameLeap]
  rfl

/-- The first instant of a day is shown. -/
theorem isShown_startOf (date : Date) : (startOf date).IsShown :=
  fun leap => absurd leap (Nat.not_succ_le_zero _)

/-- The calendar moves on to instants that are shown. -/
theorem IsShown.next (isShown : instant.IsShown) : instant.next.IsShown := by
  have ofMicro (later : Instant)
      (found : of? instant.date instant.second (instant.nano + 1000) = some later) :
      later.IsShown :=
    (of?_eq_some_iff.mp found).2
  unfold Instant.next
  cases micro : (of? instant.date instant.second (instant.nano + 1000)).filter fun later =>
      later.nano < 1000000000 with
  | some later =>
      exact ofMicro later (Option.filter_eq_some_iff.mp micro).1
  | none =>
      cases second : of? instant.date (instant.second + 1) 0 with
      | some later => exact (of?_eq_some_iff.mp second).2
      | none =>
          cases instant.date.next? with
          | some date => exact isShown_startOf date
          | none => exact isShown

end Instant

end Switchboard
