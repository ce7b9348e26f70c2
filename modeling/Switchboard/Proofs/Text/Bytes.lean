import Mathlib.Data.String.Basic
import Switchboard.Proofs.Text.Digits

namespace Switchboard.Text

/-!
# The bytes of a text

A database holds a text as its UTF-8 bytes and compares two texts byte by byte.  The
encoding of the characters keeps their order, so the bytes of any two texts stand in the
order of the texts themselves.
-/

/-- The bytes in which a text is held. -/
def bytes (text : String) : List UInt8 :=
  text.toUTF8.data.toList

/-- A text has as many bytes as its size in bytes says. -/
theorem length_bytes (text : String) : (bytes text).length = text.utf8ByteSize :=
  rfl

/-- The bytes of a text are those of its characters. -/
theorem bytes_eq_flatMap (text : String) :
    bytes text = text.toList.flatMap String.utf8EncodeChar := by
  have encoded : text.toByteArray = text.toList.utf8Encode := String.utf8Encode_toList.symm
  rw [bytes, String.toUTF8_eq_toByteArray, encoded, List.utf8Encode, List.toList_data_toByteArray]

/-- Characters that have one byte each. -/
def IsAscii (chars : List Char) : Prop :=
  ∀ c ∈ chars, c.toNat < 128

@[simp]
theorem isAscii_nil : IsAscii [] := by
  simp [IsAscii]

@[simp]
theorem isAscii_cons {c : Char} {chars : List Char} :
    IsAscii (c :: chars) ↔ c.toNat < 128 ∧ IsAscii chars := by
  simp [IsAscii]

@[simp]
theorem isAscii_append {first second : List Char} :
    IsAscii (first ++ second) ↔ IsAscii first ∧ IsAscii second := by
  simp [IsAscii, or_imp, forall_and]

/-- The digits of a number have one byte each. -/
@[simp]
theorem isAscii_padded (width number : Nat) : IsAscii (padded width number) := by
  intro c member
  exact Nat.lt_of_le_of_lt (Char.isDigit_iff_toNat.mp (isDigit_of_mem_padded member)).2 (by decide)

/-- A text of characters of one byte each has as many bytes as characters. -/
theorem utf8ByteSize_of_isAscii {text : String} (ascii : IsAscii text.toList) :
    text.utf8ByteSize = text.toList.length := by
  rw [← length_bytes, bytes_eq_flatMap]
  generalize text.toList = chars at ascii ⊢
  induction chars with
  | nil => rfl
  | cons c chars inductionHypothesis =>
      obtain ⟨small, restAscii⟩ := isAscii_cons.mp ascii
      have oneByte : c.utf8Size = 1 := Char.utf8Size_eq_one_iff.mpr (Nat.le_of_lt_succ small)
      rw [List.flatMap_cons, List.length_append, String.length_utf8EncodeChar, oneByte,
        inductionHypothesis restAscii, List.length_cons, Nat.add_comm]

private theorem byte_lt_byte_iff {first second : Nat} (firstByte : first < 256)
    (secondByte : second < 256) : UInt8.ofNat first < UInt8.ofNat second ↔ first < second :=
  UInt8.ofNat_lt_iff_lt firstByte secondByte

private theorem byte_inj {first second : Nat} (firstByte : first < 256)
    (secondByte : second < 256) : UInt8.ofNat first = UInt8.ofNat second ↔ first = second := by
  rw [← UInt8.toNat_inj, UInt8.toNat_ofNat_of_lt' firstByte, UInt8.toNat_ofNat_of_lt' secondByte]

/--
The encoding of a smaller character comes first, whatever follows the two.  The bytes behind the
first are digits to the base 64: of two widths the greater begins with the greater byte, and within
a width the digits compare as the codes do.
-/
theorem utf8EncodeChar_append_lt {c d : Char} (less : c < d) (rest later : List UInt8) :
    String.utf8EncodeChar c ++ rest < String.utf8EncodeChar d ++ later := by
  have codes : c.val.toNat < d.val.toNat := less
  have last : d.val.toNat < 1114112 := by
    rcases d.valid with low | high
    · exact Nat.lt_trans low (by decide)
    · exact high.2
  have secondDigit : ∀ code : Nat, code / 4096 = code / 64 / 64 := fun code => by omega
  have thirdDigit : ∀ code : Nat, code / 262144 = code / 64 / 64 / 64 := fun code => by omega
  unfold String.utf8EncodeChar
  simp only
  generalize c.val.toNat = code at *
  generalize d.val.toNat = greater at *
  repeat' split
  all_goals
    simp (disch := omega) only [List.cons_append, List.nil_append, List.cons_lt_cons_iff,
      byte_lt_byte_iff, byte_inj, secondDigit, thirdDigit]
    omega

/-- The bytes of two runs of characters stand in the order of the characters. -/
private theorem encoded_lt_iff {first second : List Char} :
    first.flatMap String.utf8EncodeChar < second.flatMap String.utf8EncodeChar ↔
      first < second := by
  induction first generalizing second with
  | nil =>
      cases second with
      | nil => simp
      | cons d second =>
          obtain ⟨byte, bytes, encoded⟩ :=
            List.exists_cons_of_ne_nil (String.utf8EncodeChar_ne_nil (c := d))
          simp [encoded]
  | cons c first inductionHypothesis =>
      cases second with
      | nil => simp
      | cons d second =>
          rw [List.flatMap_cons, List.flatMap_cons, List.cons_lt_cons_iff]
          rcases Nat.lt_trichotomy c.toNat d.toNat with less | same | more
          · have charLess : c < d := less
            simp only [charLess, utf8EncodeChar_append_lt charLess, true_or]
          · obtain rfl : c = d := Char.toNat_inj.mp same
            have charIrrefl : ¬c < c := Nat.lt_irrefl c.toNat
            rw [append_lt_append_iff rfl, inductionHypothesis]
            simp only [List.lt_irrefl, charIrrefl, false_or, true_and]
          · have charMore : d < c := more
            have notLess : ¬c < d := fun less => Nat.lt_asymm less more
            have different : c ≠ d := fun same => Nat.ne_of_gt more (congrArg Char.toNat same)
            have bytesMore := utf8EncodeChar_append_lt charMore
              (second.flatMap String.utf8EncodeChar) (first.flatMap String.utf8EncodeChar)
            simp only [List.lt_asymm bytesMore, notLess, different, false_and, or_self]

/-- Comparing two texts byte by byte compares them character by character. -/
theorem bytes_lt_bytes_iff {first second : String} :
    bytes first < bytes second ↔ first < second := by
  rw [bytes_eq_flatMap, bytes_eq_flatMap, encoded_lt_iff]
  exact Iff.rfl

end Switchboard.Text
