import Mathlib.Tactic.Tauto
import Switchboard.Text.Digits

namespace Switchboard.Text

/-!
# Reading digits back and comparing them

A run of digits that is followed by something else is read back whole, and two
runs of one length stand in the order of their values.
-/

/-- What follows a number does not go on with a digit. -/
def EndsDigits (rest : List Char) : Prop :=
  rest.takeWhile Char.isDigit = []

/-- A text that starts with no digit ends the digits before it. -/
theorem endsDigits_cons {c : Char} (noDigit : c.isDigit = false) (rest : List Char) :
    EndsDigits (c :: rest) := by
  simp [EndsDigits, noDigit]

/-- Nothing at all ends the digits before it. -/
theorem endsDigits_nil : EndsDigits [] :=
  rfl

/-- A decimal number consists of digits. -/
theorem isDigit_of_mem_decimal {number : Nat} {c : Char} (member : c ∈ decimal number) :
    c.isDigit = true :=
  Nat.isDigit_of_mem_toDigits (by decide) (by decide) member

/-- A padded number consists of digits. -/
theorem isDigit_of_mem_padded {width number : Nat} {c : Char}
    (member : c ∈ padded width number) : c.isDigit = true := by
  simp only [padded, padZeros, List.mem_append, List.mem_replicate] at member
  rcases member with ⟨_, rfl⟩ | inDigits
  · decide
  · exact isDigit_of_mem_decimal inDigits

/-- A decimal number has at least one digit. -/
theorem decimal_ne_nil (number : Nat) : decimal number ≠ [] :=
  Nat.toDigits_ne_nil

/-- A padded number has at least one digit. -/
theorem padded_ne_nil (width number : Nat) : padded width number ≠ [] := by
  simp [padded, padZeros, decimal_ne_nil]

/-- A decimal number starts with a digit. -/
theorem decimal_eq_cons (number : Nat) :
    ∃ first later, decimal number = first :: later ∧ first.isDigit = true := by
  cases digits : decimal number with
  | nil => exact absurd digits (decimal_ne_nil number)
  | cons first later =>
      exact ⟨first, later, rfl, isDigit_of_mem_decimal (digits ▸ List.mem_cons_self)⟩

/-- A padded number starts with a digit. -/
theorem padded_eq_cons (width number : Nat) :
    ∃ first later, padded width number = first :: later ∧ first.isDigit = true := by
  cases digits : padded width number with
  | nil => exact absurd digits (padded_ne_nil width number)
  | cons first later =>
      exact ⟨first, later, rfl, isDigit_of_mem_padded (digits ▸ List.mem_cons_self)⟩

/-- A character that is no digit is not the digit that a number starts with. -/
theorem ne_of_isDigit {first c : Char} (digit : first.isDigit = true)
    (noDigit : c.isDigit = false) : first ≠ c := by
  rintro rfl
  rw [digit] at noDigit
  cases noDigit

/-- The leading digits of a text that starts with a run of digits. -/
theorem takeWhile_digits {digits rest : List Char}
    (allDigits : ∀ c ∈ digits, c.isDigit = true)
    (ends : EndsDigits rest) :
    (digits ++ rest).takeWhile Char.isDigit = digits := by
  rw [List.takeWhile_append_of_pos allDigits, ends, List.append_nil]

/-- What follows the leading digits of a text that starts with a run of digits. -/
theorem dropWhile_digits {digits rest : List Char}
    (allDigits : ∀ c ∈ digits, c.isDigit = true)
    (ends : EndsDigits rest) :
    (digits ++ rest).dropWhile Char.isDigit = rest := by
  have whole := List.takeWhile_append_dropWhile (p := Char.isDigit) (l := rest)
  rw [ends, List.nil_append] at whole
  rw [List.dropWhile_append_of_pos allDigits, whole]

/-- The span of the digits of a number is the number. -/
theorem spanDigits_append {digits rest : List Char}
    (allDigits : ∀ c ∈ digits, c.isDigit = true)
    (ends : EndsDigits rest) :
    spanDigits (digits ++ rest) = (digits, rest) := by
  rw [spanDigits, takeWhile_digits allDigits ends, dropWhile_digits allDigits ends]

private theorem digitChar_ne_zero {digit : Nat} (positive : 0 < digit) (small : digit < 10) :
    Nat.digitChar digit ≠ '0' := by
  have table : ∀ digit : Fin 10, 0 < digit.val → Nat.digitChar digit.val ≠ '0' := by decide
  exact table ⟨digit, small⟩ positive

/-- A positive number does not start with a zero. -/
theorem head_decimal_ne_zero {number : Nat} (positive : 0 < number) :
    (decimal number).head? ≠ some '0' := by
  induction number using Nat.strongRecOn with
  | ind number inductionHypothesis =>
      unfold decimal
      rw [Nat.toDigits_eq_if (by decide)]
      split
      · rename_i small
        simpa using digitChar_ne_zero positive small
      · rename_i large
        have shorter : (decimal (number / 10)).head? ≠ some '0' :=
          inductionHypothesis (number / 10) (by omega) (by omega)
        obtain ⟨first, later, digits, _⟩ := decimal_eq_cons (number / 10)
        rw [digits] at shorter
        rw [show Nat.toDigits 10 (number / 10) = first :: later from digits]
        simpa using shorter

/-- The value of digits behind a first digit. -/
theorem decimalValue_cons (c : Char) (digits : List Char) :
    decimalValue (c :: digits) =
      10 ^ digits.length * (c.toNat - '0'.toNat) + decimalValue digits := by
  rw [decimalValue, Nat.ofDigitChars_cons, Nat.ofDigitChars_eq_ofDigitChars_zero]
  simp [decimalValue]

private theorem digit_bounds {c : Char} (digit : c.isDigit = true) :
    '0'.toNat ≤ c.toNat ∧ c.toNat ≤ '9'.toNat :=
  Char.isDigit_iff_toNat.mp digit

/-- A run of digits has less than one more digit could say. -/
theorem decimalValue_lt {digits : List Char} (allDigits : ∀ c ∈ digits, c.isDigit = true) :
    decimalValue digits < 10 ^ digits.length := by
  induction digits with
  | nil => decide
  | cons c digits inductionHypothesis =>
      have tailBound := inductionHypothesis fun later member =>
        allDigits later (List.mem_cons_of_mem c member)
      have headBound := digit_bounds (allDigits c List.mem_cons_self)
      have digitBound : c.toNat - '0'.toNat ≤ 9 := by
        have nine : '9'.toNat = '0'.toNat + 9 := rfl
        omega
      have product : 10 ^ digits.length * (c.toNat - '0'.toNat) ≤ 10 ^ digits.length * 9 :=
        Nat.mul_le_mul_left _ digitBound
      rw [decimalValue_cons, List.length_cons, Nat.pow_succ]
      omega

/-- Lists with fronts of one length compare by their fronts, and then by what follows. -/
theorem append_lt_append_iff {α : Type} [LT α] {first second firstRest secondRest : List α}
    (sameLength : first.length = second.length) :
    first ++ firstRest < second ++ secondRest ↔
      first < second ∨ first = second ∧ firstRest < secondRest := by
  induction first generalizing second with
  | nil =>
      have empty : second = [] := List.length_eq_zero_iff.mp sameLength.symm
      subst empty
      simp
  | cons c first inductionHypothesis =>
      cases second with
      | nil => simp at sameLength
      | cons d second =>
          have restLength : first.length = second.length := by simpa using sameLength
          simp only [List.cons_append, List.cons_lt_cons_iff, List.cons.injEq,
            inductionHypothesis restLength]
          tauto

/-- Runs of digits of one length stand in the order of their values. -/
theorem digits_lt_iff {first second : List Char}
    (sameLength : first.length = second.length)
    (firstDigits : ∀ c ∈ first, c.isDigit = true)
    (secondDigits : ∀ c ∈ second, c.isDigit = true) :
    first < second ↔ decimalValue first < decimalValue second := by
  induction first generalizing second with
  | nil =>
      have empty : second = [] := List.length_eq_zero_iff.mp sameLength.symm
      subst empty
      simp
  | cons c first inductionHypothesis =>
      cases second with
      | nil => simp at sameLength
      | cons d second =>
          have restLength : first.length = second.length := by simpa using sameLength
          have firstRest : ∀ e ∈ first, e.isDigit = true := fun e member =>
            firstDigits e (List.mem_cons_of_mem c member)
          have secondRest : ∀ e ∈ second, e.isDigit = true := fun e member =>
            secondDigits e (List.mem_cons_of_mem d member)
          have restOrder := inductionHypothesis restLength firstRest secondRest
          have firstBound := decimalValue_lt firstRest
          have secondBound := decimalValue_lt secondRest
          have cBounds := digit_bounds (firstDigits c List.mem_cons_self)
          have dBounds := digit_bounds (secondDigits d List.mem_cons_self)
          rw [List.cons_lt_cons_iff, restOrder, decimalValue_cons, decimalValue_cons, restLength]
          rw [restLength] at firstBound
          generalize decimalValue first = firstValue at *
          generalize decimalValue second = secondValue at *
          generalize 10 ^ second.length = power at *
          rcases Nat.lt_trichotomy c.toNat d.toNat with less | same | more
          · have gap : power * (c.toNat - '0'.toNat) + power ≤ power * (d.toNat - '0'.toNat) := by
              rw [← Nat.mul_succ]
              exact Nat.mul_le_mul_left _ (by omega)
            have charLess : c < d := less
            simp only [charLess, true_or, true_iff]
            omega
          · have charSame : c = d := Char.toNat_inj.mp same
            subst charSame
            simp
          · have gap : power * (d.toNat - '0'.toNat) + power ≤ power * (c.toNat - '0'.toNat) := by
              rw [← Nat.mul_succ]
              exact Nat.mul_le_mul_left _ (by omega)
            have notLess : ¬c < d := fun less => Nat.lt_asymm less more
            have different : c ≠ d := fun same => Nat.ne_of_gt more (congrArg Char.toNat same)
            simp only [notLess, different, false_and, or_self, false_iff]
            omega

/-- Numbers padded to one width stand as texts in their order as numbers. -/
theorem padded_lt_iff {width first second : Nat}
    (positive : 0 < width)
    (firstFits : first < 10 ^ width)
    (secondFits : second < 10 ^ width) :
    padded width first < padded width second ↔ first < second := by
  have sameLength : (padded width first).length = (padded width second).length := by
    rw [length_padded positive firstFits, length_padded positive secondFits]
  rw [digits_lt_iff sameLength (fun _ => isDigit_of_mem_padded) (fun _ => isDigit_of_mem_padded),
    decimalValue_padded, decimalValue_padded]

/-- A padded number says which number it is. -/
theorem padded_inj {width first second : Nat} :
    padded width first = padded width second ↔ first = second := by
  constructor
  · intro same
    rw [← decimalValue_padded width first, same, decimalValue_padded]
  · rintro rfl
    rfl

end Switchboard.Text
