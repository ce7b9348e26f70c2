namespace Switchboard.Text

/-!
# White space

The white space of the Unicode standard and the trimming of text.  Main
statement: a text consists of blanks exactly when trimming leaves nothing of it.
-/

/-- Characters with the Unicode property White_Space. -/
def isBlank (c : Char) : Bool :=
  let code := c.toNat
  (9 ≤ code && code ≤ 13) || code == 32 || code == 0x85 || code == 0xA0 || code == 0x1680 ||
    (0x2000 ≤ code && code ≤ 0x200A) || code == 0x2028 || code == 0x2029 || code == 0x202F ||
    code == 0x205F || code == 0x3000

/-- Drop the blanks at the start. -/
def trimStart (text : List Char) : List Char :=
  text.dropWhile isBlank

/-- Drop the blanks at both ends. -/
def trim (text : List Char) : List Char :=
  (trimStart (trimStart text).reverse).reverse

/-- Whether a text has no character that is not blank. -/
def isAllBlank (text : String) : Bool :=
  text.toList.all isBlank

/-- Dropping a leading run leaves nothing exactly when the run is the whole list. -/
theorem trimStart_eq_nil_iff {text : List Char} :
    trimStart text = [] ↔ text.all isBlank := by
  induction text with
  | nil => simp [trimStart]
  | cons c rest inductionHypothesis =>
      rw [trimStart, List.dropWhile_cons, List.all_cons]
      cases blank : isBlank c with
      | true => exact inductionHypothesis
      | false => simp

/-- Nothing remains after trimming exactly when every character is blank. -/
theorem trim_eq_nil_iff {text : List Char} : trim text = [] ↔ text.all isBlank := by
  unfold trim
  rw [List.reverse_eq_nil_iff, trimStart_eq_nil_iff, List.all_reverse]
  induction text with
  | nil => simp [trimStart]
  | cons c rest inductionHypothesis =>
      by_cases blank : isBlank c
      · simpa [trimStart, blank] using inductionHypothesis
      · simp [trimStart, blank]

end Switchboard.Text
