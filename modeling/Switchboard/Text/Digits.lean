namespace Switchboard.Text

/-!
# Numbers in digits

Decimal and hexadecimal writing of natural numbers and integers, and the reading
of a run of decimal digits.  Main statements: a padded number has the asked width
when it fits, and reading the digits of a number gives the number.
-/

-- Powers stay the core library's, whatever other powers a client of these modules knows.
attribute [instance (2000)] instPowNat

/-- The decimal digits of a natural number. -/
def decimal (number : Nat) : List Char :=
  Nat.toDigits 10 number

/-- The hexadecimal digits of a natural number, in small letters. -/
def hexadecimal (number : Nat) : List Char :=
  Nat.toDigits 16 number

/-- The decimal digits of an integer, with a minus sign in front of a negative one. -/
def signedDecimal : Int → List Char
  | .ofNat number => decimal number
  | .negSucc number => '-' :: decimal (number + 1)

/-- Zeros in front of a text up to a width. -/
def padZeros (width : Nat) (digits : List Char) : List Char :=
  List.replicate (width - digits.length) '0' ++ digits

/-- A natural number in at least `width` decimal digits. -/
def padded (width number : Nat) : List Char :=
  padZeros width (decimal number)

/-- The value of a run of decimal digits. -/
def decimalValue (digits : List Char) : Nat :=
  Nat.ofDigitChars 10 digits 0

/-- The leading decimal digits of a text and what follows them. -/
def spanDigits (text : List Char) : List Char × List Char :=
  (text.takeWhile Char.isDigit, text.dropWhile Char.isDigit)

/-- The value of a hexadecimal digit of either case. -/
def hexValue? (c : Char) : Option Nat :=
  if c.isDigit then some (c.toNat - 48)
  else if 'a' ≤ c ∧ c ≤ 'f' then some (c.toNat - 87)
  else if 'A' ≤ c ∧ c ≤ 'F' then some (c.toNat - 55)
  else none

/-- The value of a text of hexadecimal digits alone; `none` for any other character. -/
def hexadecimalValue? (digits : List Char) : Option Nat :=
  digits.foldl (fun total c => do return (← total) * 16 + (← hexValue? c)) (some 0)

/-- The bytes that pairs of hexadecimal digits name. -/
def hexadecimalBytes : List Char → List UInt8
  | high :: low :: rest =>
      UInt8.ofNat ((hexadecimalValue? [high, low]).getD 0) :: hexadecimalBytes rest
  | _ => []

/-- Reading the digits of a number gives the number. -/
theorem decimalValue_decimal (number : Nat) : decimalValue (decimal number) = number :=
  Nat.ofDigitChars_ten_toDigits

/-- Zeros in front do not change the value. -/
theorem decimalValue_padded (width number : Nat) :
    decimalValue (padded width number) = number := by
  simp [decimalValue, padded, padZeros, Nat.ofDigitChars_append,
    Nat.ofDigitChars_replicate_zero, decimal, Nat.ofDigitChars_ten_toDigits]

/-- A number that fits is written in exactly the asked width. -/
theorem length_padded {width number : Nat} (positive : 0 < width) (fits : number < 10 ^ width) :
    (padded width number).length = width := by
  have short : (Nat.toDigits 10 number).length ≤ width :=
    (Nat.length_toDigits_le_iff (by decide) positive).mpr fits
  simp only [padded, padZeros, decimal, List.length_append, List.length_replicate]
  omega

end Switchboard.Text
