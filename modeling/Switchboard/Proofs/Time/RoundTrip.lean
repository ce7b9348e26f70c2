import Switchboard.Proofs.Text.Digits
import Switchboard.Proofs.Time.Shown
import Switchboard.Time.Reader

namespace Switchboard

open Text

/-!
# Written instants are read back

Both written forms name the instant that a clock shows where they were made: the wire
form exactly, and the stored form up to the microsecond, for years of four digits without
a sign.  Whatever text is read, a clock shows what it names.
-/

private theorem isBlank_of_isDigit {c : Char} (digit : c.isDigit = true) : isBlank c = false := by
  obtain ⟨low, high⟩ := Char.isDigit_iff_toNat.mp digit
  have lowest : '0'.toNat = 48 := rfl
  have highest : '9'.toNat = 57 := rfl
  simp only [isBlank, Bool.or_eq_false_iff, Bool.and_eq_false_iff, beq_eq_false_iff_ne,
    decide_eq_false_iff_not]
  omega

private theorem trimStart_padded (width number : Nat) (rest : List Char) :
    trimStart (padded width number ++ rest) = padded width number ++ rest := by
  obtain ⟨first, later, digits, firstDigit⟩ := padded_eq_cons width number
  rw [digits]
  simp [trimStart, isBlank_of_isDigit firstDigit]

private theorem endsDigits_take {rest : List Char} (ends : EndsDigits rest) (count : Nat) :
    EndsDigits (rest.take count) := by
  cases rest with
  | nil => simp [EndsDigits]
  | cons c rest =>
      cases count with
      | zero => rfl
      | succ count =>
          by_cases digit : c.isDigit = true
          · simp [EndsDigits, digit] at ends
          · simp [EndsDigits, digit]

namespace Instant

/-- A number in its full width is read back. -/
theorem number_padded (least : Nat) {width number : Nat}
    (positive : 0 < width)
    (enough : least ≤ width)
    (fits : number < 10 ^ width)
    (rest : List Char) :
    number? least width (padded width number ++ rest) = some (number, rest) := by
  have size : (padded width number).length = width := length_padded positive fits
  have front : (padded width number ++ rest).take width = padded width number :=
    List.take_left' size
  have digits : (padded width number).takeWhile Char.isDigit = padded width number := by
    have whole : (padded width number ++ []).takeWhile Char.isDigit = padded width number :=
      takeWhile_digits (fun _ => isDigit_of_mem_padded) endsDigits_nil
    rwa [List.append_nil] at whole
  unfold number?
  simp only [front, digits, size, enough, ↓reduceIte, decimalValue_padded,
    List.drop_left' size]

/-- A number of any width is read back where no digit follows. -/
theorem longNumber_padded {width number : Nat} {rest : List Char} (ends : EndsDigits rest) :
    longNumber? (padded width number ++ rest) = some (number, rest) := by
  have digits : (padded width number ++ rest).takeWhile Char.isDigit = padded width number :=
    takeWhile_digits (fun _ => isDigit_of_mem_padded) ends
  have nonempty : 1 ≤ (padded width number).length :=
    List.length_pos_iff.mpr (padded_ne_nil width number)
  unfold longNumber? number?
  simp only [List.take_length, digits, nonempty, ↓reduceIte, decimalValue_padded,
    List.drop_left]

/-- A fraction of at most nine digits is read back as nanoseconds. -/
theorem fraction_padded {width number : Nat} {rest : List Char}
    (positive : 0 < width)
    (short : width ≤ 9)
    (fits : number < 10 ^ width)
    (ends : EndsDigits rest) :
    fraction? ('.' :: (padded width number ++ rest)) =
      some (number * 10 ^ (9 - width), rest) := by
  have size : (padded width number).length = width := length_padded positive fits
  have front :
      ((padded width number ++ rest).take 9).takeWhile Char.isDigit = padded width number := by
    rw [List.take_append, List.take_of_length_le (by omega)]
    exact takeWhile_digits (fun _ => isDigit_of_mem_padded) (endsDigits_take ends _)
  have behind : rest.dropWhile Char.isDigit = rest := by
    have whole : ([] ++ rest).dropWhile Char.isDigit = rest := dropWhile_digits (by simp) ends
    rwa [List.nil_append] at whole
  unfold fraction?
  simp [front, padded_ne_nil, decimalValue_padded, size, List.drop_left' size, behind]

private theorem ofLocal_universal (date : Date) {second : Nat} (nano : Nat)
    (inDay : second < 86400) : ofLocal? date second nano 0 = of? date second nano := by
  unfold ofLocal?
  have notBefore : ¬((second : Int) - 0 < 0) := by omega
  have notAfter : (second : Int) - 0 < 86400 := by omega
  have same : ((second : Int) - 0).toNat = second := by omega
  simp only [notBefore, notAfter, same, ↓reduceIte]

/-- The fields that a clock shows name the instant. -/
theorem ofFields_clock {instant : Instant} (isShown : instant.IsShown) :
    ofFields? instant.date.year instant.date.month instant.date.day (instant.second / 3600)
        (instant.second / 60 % 60) instant.shownSecond (instant.nano % 1000000000) 0 =
      some instant := by
  obtain ⟨secondBound, nanoBound⟩ := instant.inDay
  have parts : of? instant.date instant.second instant.nano = some instant :=
    of?_eq_some_iff.mpr ⟨⟨rfl, rfl, rfl⟩, isShown⟩
  have inRange :
      instant.second / 3600 < 24 ∧ instant.second / 60 % 60 < 60 ∧
        instant.shownSecond ≤ 60 ∧ (-86400 : Int) < 0 ∧ (0 : Int) < 86400 := by
    unfold shownSecond
    omega
  have sameDate :
      Date.of? instant.date.year instant.date.month instant.date.day = some instant.date :=
    Date.of?_eq_some_iff.mpr ⟨rfl, rfl, rfl⟩
  unfold ofFields?
  simp only [sameDate, Option.bind_eq_bind, Option.bind_some, inRange, and_self, ↓reduceIte]
  by_cases inLeap : 1000000000 ≤ instant.nano
  · have lastSecond := isShown inLeap
    have shown : instant.shownSecond = 60 := by unfold shownSecond; omega
    have second :
        instant.second / 3600 * 3600 + instant.second / 60 % 60 * 60 + 59 = instant.second := by
      omega
    have nano : 1000000000 + instant.nano % 1000000000 = instant.nano := by omega
    rw [if_pos shown, second, nano, ofLocal_universal _ _ secondBound, parts]
  · have shown : instant.shownSecond = instant.second % 60 := by unfold shownSecond; omega
    have notSixty : ¬instant.shownSecond = 60 := by omega
    have second :
        instant.second / 3600 * 3600 + instant.second / 60 % 60 * 60 + instant.shownSecond =
          instant.second := by
      omega
    have nano : instant.nano % 1000000000 = instant.nano := by omega
    rw [if_neg notSixty, second, nano, ofLocal_universal _ _ secondBound, parts]

/-- The fields of an instant fit into the widths in which they are written. -/
structure FitsWidths (instant : Instant) : Prop where
  month : instant.date.month < 10 ^ (2 : Nat)
  day : instant.date.day < 10 ^ (2 : Nat)
  hour : instant.second / 3600 < 10 ^ (2 : Nat)
  minute : instant.second / 60 % 60 < 10 ^ (2 : Nat)
  second : instant.shownSecond < 10 ^ (2 : Nat)

/-- Every instant fits. -/
theorem fitsWidths (instant : Instant) : instant.FitsWidths := by
  obtain ⟨_, monthBounds, dayBounds⟩ := instant.date.inCalendar
  obtain ⟨secondBound, nanoBound⟩ := instant.inDay
  have monthDays := daysInMonth_le instant.date.year instant.date.month
  refine ⟨?_, ?_, ?_, ?_, ?_⟩
  · omega
  · omega
  · omega
  · omega
  · unfold shownSecond
    omega

/-- The years that are written with four digits and no sign. -/
def HasPlainYear (instant : Instant) : Prop :=
  0 ≤ instant.date.year ∧ instant.date.year ≤ 9999

instance (instant : Instant) : Decidable instant.HasPlainYear :=
  inferInstanceAs (Decidable (_ ∧ _))

/-- The instants that a table keeps: a clock shows them, in a year of four digits. -/
structure IsStorable (instant : Instant) : Prop where
  plainYear : instant.HasPlainYear
  isShown : instant.IsShown

instance (instant : Instant) : Decidable instant.IsStorable :=
  decidable_of_iff (instant.HasPlainYear ∧ instant.IsShown)
    ⟨fun ⟨plainYear, isShown⟩ => ⟨plainYear, isShown⟩,
      fun storable => ⟨storable.plainYear, storable.isShown⟩⟩

theorem HasPlainYear.shown {instant : Instant} (plainYear : instant.HasPlainYear) :
    instant.shown.HasPlainYear := by
  unfold HasPlainYear
  rw [date_shown]
  exact plainYear

/-- What a clock shows of a year of four digits is storable. -/
theorem HasPlainYear.isStorable_shown {instant : Instant} (plainYear : instant.HasPlainYear) :
    instant.shown.IsStorable :=
  ⟨plainYear.shown, instant.isShown_shown⟩

/-- A storable instant, at which concrete runs begin. -/
def mayDay : Instant :=
  .startOf ⟨2024, 5, 1, by decide⟩

/-- What is cut off below a microsecond does not change what the clock shows. -/
theorem shownSecond_truncateToMicros (instant : Instant) :
    instant.truncateToMicros.shownSecond = instant.shownSecond := by
  simp only [shownSecond, truncateToMicros]
  omega

/-- The characters of a date and time behind its year, up to the fraction. -/
def clockChars (instant : Instant) (fraction : List Char) : List Char :=
  '-' :: (padded 2 instant.date.month ++ '-' :: (padded 2 instant.date.day ++
    'T' :: (padded 2 (instant.second / 3600) ++ ':' :: (padded 2 (instant.second / 60 % 60) ++
      ':' :: (padded 2 instant.shownSecond ++ fraction)))))

/-- The characters of the stored form. -/
theorem toList_toStored (instant : Instant) :
    instant.toStored.toList =
      Date.yearText instant.date.year ++ instant.clockChars (instant.microFraction ++ ['Z']) := by
  simp [toStored, Date.written, clock, clockChars]

/-- The characters of the wire form. -/
theorem toList_toWire (instant : Instant) :
    instant.toWire.toList =
      Date.yearText instant.date.year ++
        instant.clockChars (instant.shortestFraction ++ ['Z']) := by
  simp [toWire, Date.written, clock, clockChars]

/-- A year of four digits is written without a sign. -/
theorem yearText_of_hasPlainYear {instant : Instant} (plainYear : instant.HasPlainYear) :
    Date.yearText instant.date.year = padded 4 instant.date.year.toNat := by
  unfold Date.yearText
  exact if_pos plainYear

/-- The fraction of the stored form is read back as whole microseconds. -/
theorem fraction_micros (instant : Instant) :
    fraction? (instant.microFraction ++ ['Z']) =
      some (instant.truncateToMicros.nano % 1000000000, ['Z']) := by
  have nanoBound := instant.inDay.2
  have micros :
      instant.nano % 1000000000 / 1000 * 10 ^ (9 - 6) =
        instant.truncateToMicros.nano % 1000000000 := by
    simp only [truncateToMicros]
    omega
  rw [microFraction, List.cons_append,
    fraction_padded (by decide) (by decide) (by omega) (endsDigits_cons (by decide) _), micros]

/-- The stored form is read back up to the microsecond. -/
theorem readStrict_toStored {instant : Instant} (storable : instant.IsStorable) :
    readStrict instant.toStored = some instant.truncateToMicros := by
  obtain ⟨yearLow, yearHigh⟩ := storable.plainYear
  have widths := instant.fitsWidths
  have yearFits : instant.date.year.toNat < 10 ^ 4 := by omega
  have yearBack : (instant.date.year.toNat : Int) = instant.date.year := by omega
  have fields := ofFields_clock (isShown_truncateToMicros.mpr storable.isShown)
  rw [shownSecond_truncateToMicros] at fields
  simp only [truncateToMicros] at fields
  unfold readStrict
  rw [toList_toStored, yearText_of_hasPlainYear storable.plainYear]
  simp only [clockChars, number_padded 4 (by decide) (Nat.le_refl 4) yearFits,
    number_padded 2 (by decide) (Nat.le_refl 2) widths.month,
    number_padded 2 (by decide) (Nat.le_refl 2) widths.day,
    number_padded 2 (by decide) (Nat.le_refl 2) widths.hour,
    number_padded 2 (by decide) (Nat.le_refl 2) widths.minute,
    number_padded 2 (by decide) (Nat.le_refl 2) widths.second,
    fraction_micros, expect?, dateTimeGap?, offset?, Option.bind_eq_bind, Option.bind_some,
    ↓reduceIte, true_or, List.isEmpty_nil, yearBack]
  exact fields

/-- Of every stored form with a year of four digits, what a clock shows is read back. -/
theorem readStrict_toStored_of_hasPlainYear {instant : Instant}
    (plainYear : instant.HasPlainYear) :
    readStrict instant.toStored = some instant.shown.truncateToMicros := by
  rw [← toStored_shown]
  exact readStrict_toStored plainYear.isStorable_shown

private theorem lenientYear_yearText (year : Int) {rest : List Char} (ends : EndsDigits rest) :
    lenientYear? (Date.yearText year ++ rest) = some (year, rest) := by
  unfold Date.yearText
  by_cases fourDigits : 0 ≤ year ∧ year ≤ 9999
  · have fits : year.toNat < 10 ^ 4 := by omega
    have back : (year.toNat : Int) = year := by omega
    have read := number_padded 1 (show 0 < 4 by decide) (by decide) fits rest
    obtain ⟨first, later, digits, firstDigit⟩ := padded_eq_cons 4 year.toNat
    have notMinus : first ≠ '-' := ne_of_isDigit firstDigit rfl
    have notPlus : first ≠ '+' := ne_of_isDigit firstDigit rfl
    rw [digits, List.cons_append] at read
    rw [if_pos fourDigits, digits]
    unfold lenientYear?
    simp [notMinus, notPlus, read, back]
  · rw [if_neg fourDigits]
    by_cases negative : year < 0
    · have back : -(year.natAbs : Int) = year := by omega
      simp only [negative, ↓reduceIte, List.cons_append, lenientYear?, longNumber_padded ends,
        Option.bind_eq_bind, Option.bind_some, back]
    · have back : (year.natAbs : Int) = year := by omega
      simp only [negative, ↓reduceIte, List.cons_append, lenientYear?, longNumber_padded ends,
        Option.bind_eq_bind, Option.bind_some, back]

private theorem trimStart_yearText (year : Int) (rest : List Char) :
    trimStart (Date.yearText year ++ rest) = Date.yearText year ++ rest := by
  unfold Date.yearText
  split
  · exact trimStart_padded 4 year.toNat rest
  · by_cases negative : year < 0
    · simp only [negative, ↓reduceIte]
      rfl
    · simp only [negative, ↓reduceIte]
      rfl

private theorem lenientField_padded {number : Nat} (fits : number < 10 ^ (2 : Nat))
    (rest : List Char) :
    lenientField? (padded 2 number ++ rest) = some (number, rest) := by
  unfold lenientField?
  rw [trimStart_padded, number_padded 1 (by decide) (by decide) fits]

private theorem fraction_shortest (instant : Instant) :
    fraction? (instant.shortestFraction ++ ['Z']) = some (instant.nano % 1000000000, ['Z']) := by
  have ends : EndsDigits ['Z'] := endsDigits_cons (by decide) _
  unfold shortestFraction
  simp only []
  split
  · rename_i whole
    rw [whole]
    rfl
  · split
    · rename_i millis
      rw [List.cons_append, fraction_padded (by decide) (by decide) (by omega) ends]
      congr 2
      omega
    · split
      · rename_i micros
        rw [List.cons_append, fraction_padded (by decide) (by decide) (by omega) ends]
        congr 2
        omega
      · rw [List.cons_append, fraction_padded (by decide) (by decide) (by omega) ends]
        congr 2
        omega

private theorem readLenient_toWire_of_isShown {instant : Instant} (isShown : instant.IsShown) :
    readLenient instant.toWire = some instant := by
  have widths := instant.fitsWidths
  have dash : ∀ rest, lenientExpect? '-' ('-' :: rest) = some rest := fun _ => rfl
  have colon : ∀ rest, lenientExpect? ':' (':' :: rest) = some rest := fun _ => rfl
  have zone : lenientOffset? (trimStart ['Z']) = some (0, []) := rfl
  have ends : ∀ rest, EndsDigits ('-' :: rest) := endsDigits_cons (by decide)
  unfold readLenient
  rw [toList_toWire, trimStart_yearText]
  simp only [clockChars, lenientYear_yearText _ (ends _), lenientField_padded widths.month,
    lenientField_padded widths.day, lenientField_padded widths.hour,
    lenientField_padded widths.minute, lenientField_padded widths.second, fraction_shortest,
    dash, colon, zone, dateTimeGap?, Option.bind_eq_bind, Option.bind_some, true_or, ↓reduceIte]
  exact ofFields_clock isShown

/-- Of the wire form, what a clock shows is read back exactly. -/
theorem readLenient_toWire (instant : Instant) :
    readLenient instant.toWire = some instant.shown := by
  rw [← toWire_shown]
  exact readLenient_toWire_of_isShown instant.isShown_shown

/-! ## What is read is shown -/

private theorem isShown_of_ofLocal {date : Date} {second nano : Nat} {offset : Int}
    {instant : Instant} (read : ofLocal? date second nano offset = some instant) :
    instant.IsShown := by
  unfold ofLocal? at read
  dsimp only at read
  split at read
  · obtain ⟨_, _, found⟩ := Option.bind_eq_some_iff.mp read
    exact (of?_eq_some_iff.mp found).2
  · split at read
    · exact (of?_eq_some_iff.mp read).2
    · obtain ⟨_, _, found⟩ := Option.bind_eq_some_iff.mp read
      exact (of?_eq_some_iff.mp found).2

private theorem isShown_of_ofFields {year : Int} {month day hour minute second nano : Nat}
    {offset : Int} {instant : Instant}
    (read : ofFields? year month day hour minute second nano offset = some instant) :
    instant.IsShown := by
  obtain ⟨_, _, found⟩ := Option.bind_eq_some_iff.mp read
  split at found
  · split at found
    · exact isShown_of_ofLocal found
    · exact isShown_of_ofLocal found
  · cases found

/-- What the strict reader reads is shown. -/
theorem isShown_of_readStrict {text : String} {instant : Instant}
    (read : readStrict text = some instant) :
    instant.IsShown := by
  unfold readStrict at read
  iterate 13 obtain ⟨_, _, read⟩ := Option.bind_eq_some_iff.mp read
  obtain ⟨_, read⟩ := Option.ite_none_right_eq_some.mp read
  exact isShown_of_ofFields read

/-- What the lenient reader reads is shown. -/
theorem isShown_of_readLenient {text : String} {instant : Instant}
    (read : readLenient text = some instant) :
    instant.IsShown := by
  unfold readLenient at read
  iterate 13 obtain ⟨_, _, read⟩ := Option.bind_eq_some_iff.mp read
  obtain ⟨_, read⟩ := Option.ite_none_right_eq_some.mp read
  exact isShown_of_ofFields read

end Instant

end Switchboard
