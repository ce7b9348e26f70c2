import Switchboard.Proofs.Time.StoredOrder

namespace Switchboard.Instant

open Text

/-!
# Instants outside the years of four digits

Their stored forms begin with a sign.  No reader of tables takes them back, and as texts
they stand before the stored forms of all years of four digits, whether the years are far
ahead or long gone.
-/

variable {instant : Instant}

/-- A year that has not four digits is written behind a sign. -/
theorem toList_toStored_of_not_hasPlainYear (notPlain : ¬instant.HasPlainYear) :
    ∃ sign rest, instant.toStored.toList = sign :: rest ∧ (sign = '-' ∨ sign = '+') := by
  have year :
      Date.yearText instant.date.year =
        (if instant.date.year < 0 then '-' else '+') :: padded 4 instant.date.year.natAbs :=
    if_neg notPlain
  refine ⟨_, _, by rw [toList_toStored, year, List.cons_append], ?_⟩
  by_cases negative : instant.date.year < 0
  · exact .inl (if_pos negative)
  · exact .inr (if_neg negative)

/-- A stored form that begins with a sign is not read back. -/
theorem readStrict_toStored_eq_none (notPlain : ¬instant.HasPlainYear) :
    readStrict instant.toStored = none := by
  obtain ⟨sign, rest, written, isSign⟩ := toList_toStored_of_not_hasPlainYear notPlain
  have noDigit : sign.isDigit = false := by
    rcases isSign with rfl | rfl <;> decide
  have unread : number? 4 4 (sign :: rest) = none := by
    simp [number?, noDigit]
  unfold readStrict
  rw [written, unread]
  rfl

/-- As texts, all stored forms with a sign stand before all without. -/
theorem toStored_lt_toStored_of_not_hasPlainYear {now : Instant}
    (notPlain : ¬instant.HasPlainYear)
    (plainYear : now.HasPlainYear) :
    instant.toStored < now.toStored := by
  obtain ⟨sign, rest, written, isSign⟩ := toList_toStored_of_not_hasPlainYear notPlain
  obtain ⟨first, later, digits, firstDigit⟩ := padded_eq_cons 4 now.date.year.toNat
  have before : sign < first := by
    have least : '0'.toNat ≤ first.toNat := (Char.isDigit_iff_toNat.mp firstDigit).1
    have small : sign.toNat < '0'.toNat := by
      rcases isSign with rfl | rfl <;> decide
    exact Nat.lt_of_lt_of_le small least
  show instant.toStored.toList < now.toStored.toList
  rw [written, toList_toStored, yearText_of_hasPlainYear plainYear, digits, List.cons_append]
  exact List.Lex.rel before

end Switchboard.Instant
