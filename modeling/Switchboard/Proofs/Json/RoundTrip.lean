import Switchboard.Json.Reader
import Switchboard.Proofs.Text.Digits

namespace Switchboard.Json

open Text

/-!
# Written values are read back

Reading the text of a value gives the value, for all values that the wire forms are
made of: texts that are texts, and numbers that are integers.  The nesting is
bounded by the length of the text, so the fuel of the reader never runs out.
-/

mutual

/-- Whether all texts of a value are texts and all its numbers integers. -/
def isPlain : Json → Bool
  | .null => true
  | .bool _ => true
  | .number (.integer _) => true
  | .number (.scaled ..) => false
  | .string value => value.isSome
  | .array items => arePlainItems items
  | .object members => arePlainMembers members

/-- Whether all items of an array are plain. -/
def arePlainItems : List Json → Bool
  | [] => true
  | item :: rest => isPlain item && arePlainItems rest

/-- Whether all members of an object are plain. -/
def arePlainMembers : List (Option String × Json) → Bool
  | [] => true
  | (name, value) :: rest => name.isSome && isPlain value && arePlainMembers rest

end

/-- What may follow a value inside a text: nothing, or the mark behind a part. -/
inductive Follows : List Char → Prop where
  | nothing : Follows []
  | comma (rest : List Char) : Follows (',' :: rest)
  | bracket (rest : List Char) : Follows (']' :: rest)
  | brace (rest : List Char) : Follows ('\x7d' :: rest)

namespace Follows

/-- What follows a value does not go on with digits. -/
theorem endsDigits {rest : List Char} (follows : Follows rest) : EndsDigits rest := by
  cases follows <;> rfl

/-- What follows a value is no fraction. -/
theorem fractionDigits {rest : List Char} (follows : Follows rest) :
    fractionDigits? rest = some ([], rest) := by
  cases follows <;> rfl

/-- What follows a value is no exponent. -/
theorem exponent {rest : List Char} (follows : Follows rest) :
    exponent? rest = some (none, rest) := by
  cases follows <;> rfl

end Follows

private theorem wholeDigits_decimal (number : Nat) {rest : List Char} (ends : EndsDigits rest) :
    wholeDigits? (decimal number ++ rest) = some (decimal number, rest) := by
  have span : spanDigits (decimal number ++ rest) = (decimal number, rest) :=
    spanDigits_append (fun _ => isDigit_of_mem_decimal) ends
  unfold wholeDigits?
  rw [span]
  by_cases zero : number = 0
  · subst zero
    rfl
  · have noZero : (decimal number).head? ≠ some '0' :=
      head_decimal_ne_zero (Nat.pos_of_ne_zero zero)
    obtain ⟨first, later, digits, _⟩ := decimal_eq_cons number
    rw [digits] at noZero ⊢
    have firstNotZero : first ≠ '0' := fun same => noZero (congrArg some same)
    simp [firstNotZero]

private theorem unsignedNumber_decimal
    (negative : Bool)
    (number : Nat)
    {rest : List Char}
    (notMinusZero : ¬(negative = true ∧ number = 0))
    (follows : Follows rest) :
    unsignedNumber? negative (decimal number ++ rest) =
      some (.integer (if negative then -(number : Int) else number), rest) := by
  unfold unsignedNumber?
  simp [wholeDigits_decimal number follows.endsDigits, follows.fractionDigits, follows.exponent,
    Number.ofParts, decimalValue_decimal]
  simpa using notMinusZero

/-- An integer is read back. -/
theorem number_signedDecimal (value : Int) {rest : List Char} (follows : Follows rest) :
    number? (signedDecimal value ++ rest) = some (.integer value, rest) := by
  cases value with
  | ofNat number =>
      have read := unsignedNumber_decimal false number (by simp) follows
      obtain ⟨first, later, digits, firstDigit⟩ := decimal_eq_cons number
      have notMinus : first ≠ '-' := ne_of_isDigit firstDigit rfl
      simp only [signedDecimal, number?]
      rw [digits] at read ⊢
      simpa [notMinus] using read
  | negSucc number =>
      have read := unsignedNumber_decimal true (number + 1) (by simp) follows
      simpa [number?, signedDecimal, Int.negSucc_eq] using read

private theorem codeUnit_control (code : Fin 32) :
    ∃ a b c d, padZeros 4 (hexadecimal code.val) = [a, b, c, d] ∧
      codeUnit? a b c d = some code.val := by
  have table : ∀ code : Fin 32,
      (padZeros 4 (hexadecimal code.val)).length = 4 ∧
        hexadecimalValue? (padZeros 4 (hexadecimal code.val)) = some code.val := by
    decide
  obtain ⟨size, value⟩ := table code
  match digits : padZeros 4 (hexadecimal code.val), size with
  | [a, b, c, d], _ =>
      rw [digits] at value
      exact ⟨a, b, c, d, rfl, value⟩

private theorem literalItem_control (code : Fin 32) (rest : List Char) :
    literalItem? ('\\' :: 'u' :: padZeros 4 (hexadecimal code.val) ++ rest) =
      some (some (Char.ofNat code.val), rest) := by
  obtain ⟨a, b, c, d, digits, unit⟩ := codeUnit_control code
  have notHigh : isHighSurrogate code.val = false := by
    simp only [isHighSurrogate, Bool.and_eq_false_iff, decide_eq_false_iff_not]
    omega
  have notLow : isLowSurrogate code.val = false := by
    simp only [isLowSurrogate, Bool.and_eq_false_iff, decide_eq_false_iff_not]
    omega
  rw [digits]
  simp [literalItem?, unit, notHigh, notLow]

private theorem literalItem_escapeChar (c : Char) (rest : List Char) :
    literalItem? (escapeChar c ++ rest) = some (some c, rest) := by
  unfold escapeChar
  split
  · subst c; rfl
  split
  · subst c; rfl
  split
  · subst c; rfl
  split
  · subst c; rfl
  split
  · subst c; rfl
  split
  · subst c; rfl
  split
  · subst c; rfl
  split
  · rename_i control
    have item := literalItem_control ⟨c.toNat, control⟩ rest
    rwa [Char.ofNat_toNat] at item
  · rename_i notQuote notBackslash _ _ _ _ _ notControl
    unfold literalItem?
    split <;> simp_all

private theorem head_escapeChar (c : Char) (rest : List Char) :
    (escapeChar c ++ rest).head? ≠ some '"' := by
  unfold escapeChar
  repeat' split
  all_goals simp_all

private theorem literalTail_escape (characters rest : List Char) :
    literalTail? (characters.flatMap escapeChar ++ '"' :: rest) =
      some (characters.map some, rest) := by
  induction characters with
  | nil =>
      unfold literalTail?
      simp
  | cons c characters inductionHypothesis =>
      have item := literalItem_escapeChar c (characters.flatMap escapeChar ++ '"' :: rest)
      have notClosed := head_escapeChar c (characters.flatMap escapeChar ++ '"' :: rest)
      rw [List.flatMap_cons, List.append_assoc]
      unfold literalTail?
      rw [if_neg notClosed]
      split
      · rename_i noItem
        rw [item] at noItem
        cases noItem
      · rename_i read
        rw [item] at read
        cases read
        rw [inductionHypothesis]
        rfl

/-- The literal of a text is read back. -/
theorem stringTail_write (value : String) (rest : List Char) :
    stringTail? (value.toList.flatMap escapeChar ++ '"' :: rest) = some (some value, rest) := by
  have characters : (value.toList.map some).mapM id = some value.toList := by
    induction value.toList with
    | nil => rfl
    | cons c later inductionHypothesis => simp [inductionHypothesis]
  simp [stringTail?, literalTail_escape, literalText, characters]

private theorem writeString_some (value : String) :
    writeString (some value) = '"' :: (value.toList.flatMap escapeChar ++ ['"']) :=
  rfl

private theorem isSpace_of_isDigit {c : Char} (digit : c.isDigit = true) : isSpace c = false := by
  simp [isSpace, ne_of_isDigit digit]

/-- The first character of a value is no blank and closes nothing. -/
private theorem write_eq_cons {value : Json} (plain : value.isPlain = true) :
    ∃ c tail, value.write = c :: tail ∧ isSpace c = false ∧ c ≠ ']' ∧ c ≠ '\x7d' := by
  cases value with
  | null => exact ⟨_, _, rfl, rfl, by decide, by decide⟩
  | bool truth => cases truth <;> exact ⟨_, _, rfl, rfl, by decide, by decide⟩
  | string text =>
      cases text <;> exact ⟨_, _, rfl, rfl, by decide, by decide⟩
  | array items => exact ⟨_, _, rfl, rfl, by decide, by decide⟩
  | object members => exact ⟨_, _, rfl, rfl, by decide, by decide⟩
  | number number =>
      cases number with
      | scaled => simp [isPlain] at plain
      | integer number =>
          cases number with
          | negSucc size => exact ⟨_, _, rfl, rfl, by decide, by decide⟩
          | ofNat size =>
              obtain ⟨first, later, digits, firstDigit⟩ := decimal_eq_cons size
              have shape : (Json.number (.integer (.ofNat size))).write = first :: later := digits
              exact ⟨first, later, shape, isSpace_of_isDigit firstDigit,
                ne_of_isDigit firstDigit rfl, ne_of_isDigit firstDigit rfl⟩

private theorem length_write_pos {value : Json} (plain : value.isPlain = true) :
    1 ≤ value.write.length := by
  obtain ⟨c, tail, shape, _⟩ := write_eq_cons plain
  simp [shape]

private theorem value_integer (value : Int) {fuel : Nat} {rest : List Char}
    (follows : Follows rest) :
    value? (fuel + 1) (signedDecimal value ++ rest) = some (.number (.integer value), rest) := by
  have read := number_signedDecimal value follows
  cases value with
  | negSucc size =>
      simp only [signedDecimal, List.cons_append] at read
      simp [signedDecimal, value?, skipSpace, isSpace, read]
  | ofNat size =>
      obtain ⟨first, later, digits, firstDigit⟩ := decimal_eq_cons size
      have noSpace := isSpace_of_isDigit firstDigit
      have unskipped : skipSpace (first :: later ++ rest) = first :: later ++ rest := by
        simp [skipSpace, noSpace]
      simp only [signedDecimal, digits] at read
      simp only [signedDecimal, digits, value?, unskipped]
      split
      all_goals first
        | rw [read]; rfl
        | (rename_i opened
           simp only [List.cons_append, List.cons.injEq] at opened
           exact absurd opened.1 (ne_of_isDigit firstDigit rfl))

private theorem skipSpace_cons {c : Char} (noSpace : isSpace c = false) (rest : List Char) :
    skipSpace (c :: rest) = c :: rest := by
  simp [skipSpace, noSpace]

private theorem value_array
    {item : Json}
    {items : List Json}
    {fuel : Nat}
    {rest : List Char}
    (plain : item.isPlain = true)
    (read :
      items? fuel (writeItems (item :: items) ++ ']' :: rest) = some (item :: items, rest)) :
    value? (fuel + 1) ((Json.array (item :: items)).write ++ rest) =
      some (.array (item :: items), rest) := by
  obtain ⟨c, tail, shape, noSpace, notClosing, _⟩ := write_eq_cons plain
  obtain ⟨later, start⟩ : ∃ later, writeItems (item :: items) = c :: later := by
    cases items with
    | nil => exact ⟨tail, by simp [writeItems, shape]⟩
    | cons second items => exact ⟨_, by rw [writeItems, shape, List.cons_append]; simp⟩
  rw [start, List.cons_append] at read
  have text :
      (Json.array (item :: items)).write ++ rest = '[' :: c :: (later ++ ']' :: rest) := by
    simp [write, start]
  rw [text, value?, skipSpace_cons (by decide)]
  simp only [skipSpace_cons noSpace]
  split
  · rename_i closed
    exact absurd (List.cons.inj closed).1 notClosing
  · rw [read]
    rfl

private theorem value_object
    {name : String}
    {value : Json}
    {members : List (Option String × Json)}
    {fuel : Nat}
    {rest : List Char}
    (read :
      members? fuel (writeMembers ((some name, value) :: members) ++ '\x7d' :: rest) =
        some ((some name, value) :: members, rest)) :
    value? (fuel + 1) ((Json.object ((some name, value) :: members)).write ++ rest) =
      some (.object ((some name, value) :: members), rest) := by
  obtain ⟨later, start⟩ :
      ∃ later, writeMembers ((some name, value) :: members) = '"' :: later := by
    cases members with
    | nil => exact ⟨_, rfl⟩
    | cons second members => exact ⟨_, rfl⟩
  rw [start, List.cons_append] at read
  have text :
      (Json.object ((some name, value) :: members)).write ++ rest =
        '\x7b' :: '"' :: (later ++ '\x7d' :: rest) := by
    simp [write, start]
  rw [text, value?, skipSpace_cons (by decide)]
  simp only [skipSpace_cons (c := '"') (by decide)]
  simp [read]

private theorem items_last {item : Json} {fuel : Nat} {rest : List Char}
    (read : value? fuel (item.write ++ ']' :: rest) = some (item, ']' :: rest)) :
    items? (fuel + 1) (writeItems [item] ++ ']' :: rest) = some ([item], rest) := by
  rw [writeItems, items?, read]
  simp [skipSpace_cons (c := ']') (by decide)]

private theorem items_more
    {item second : Json}
    {items : List Json}
    {fuel : Nat}
    {rest : List Char}
    (read :
      value? fuel (item.write ++ ',' :: (writeItems (second :: items) ++ ']' :: rest)) =
        some (item, ',' :: (writeItems (second :: items) ++ ']' :: rest)))
    (readLater :
      items? fuel (writeItems (second :: items) ++ ']' :: rest) = some (second :: items, rest)) :
    items? (fuel + 1) (writeItems (item :: second :: items) ++ ']' :: rest) =
      some (item :: second :: items, rest) := by
  have text :
      writeItems (item :: second :: items) ++ ']' :: rest =
        item.write ++ ',' :: (writeItems (second :: items) ++ ']' :: rest) := by
    rw [writeItems, List.append_assoc, List.cons_append]
    simp
  rw [text, items?, read]
  simp [skipSpace_cons (c := ',') (by decide), readLater]

private theorem members_head
    {name : Option String}
    {value : Json}
    {fuel : Nat}
    {text afterQuote afterName afterColon afterValue : List Char}
    (opened : skipSpace text = '"' :: afterQuote)
    (named : stringTail? afterQuote = some (name, afterName))
    (parted : skipSpace afterName = ':' :: afterColon)
    (valued : value? fuel afterColon = some (value, afterValue)) :
    members? (fuel + 1) text =
      match skipSpace afterValue with
      | ',' :: rest =>
          (members? fuel rest).map fun (members, rest) => ((name, value) :: members, rest)
      | '\x7d' :: rest => some ([(name, value)], rest)
      | _ => none := by
  have unfolded : members? (fuel + 1) text = _ := members?.eq_def (fuel + 1) text
  simp only [opened, named, parted, valued] at unfolded
  exact unfolded

private theorem members_last
    {name : String}
    {value : Json}
    {fuel : Nat}
    {rest : List Char}
    (read : value? fuel (value.write ++ '\x7d' :: rest) = some (value, '\x7d' :: rest)) :
    members? (fuel + 1) (writeMembers [(some name, value)] ++ '\x7d' :: rest) =
      some ([(some name, value)], rest) := by
  have text :
      writeMembers [(some name, value)] ++ '\x7d' :: rest =
        '"' :: (name.toList.flatMap escapeChar ++ '"' :: ':' ::
          (value.write ++ '\x7d' :: rest)) := by
    simp only [writeMembers, writeString_some, List.append_assoc, List.cons_append,
      List.nil_append]
  rw [text, members_head (skipSpace_cons rfl _) (stringTail_write name _) (skipSpace_cons rfl _)
    read, skipSpace_cons rfl]
  rfl

private theorem members_more
    {name : String}
    {value : Json}
    {second : Option String × Json}
    {members : List (Option String × Json)}
    {fuel : Nat}
    {rest : List Char}
    (read :
      value? fuel (value.write ++ ',' :: (writeMembers (second :: members) ++ '\x7d' :: rest)) =
        some (value, ',' :: (writeMembers (second :: members) ++ '\x7d' :: rest)))
    (readLater :
      members? fuel (writeMembers (second :: members) ++ '\x7d' :: rest) =
        some (second :: members, rest)) :
    members? (fuel + 1)
        (writeMembers ((some name, value) :: second :: members) ++ '\x7d' :: rest) =
      some ((some name, value) :: second :: members, rest) := by
  have text :
      writeMembers ((some name, value) :: second :: members) ++ '\x7d' :: rest =
        '"' :: (name.toList.flatMap escapeChar ++ '"' :: ':' ::
          (value.write ++ ',' :: (writeMembers (second :: members) ++ '\x7d' :: rest))) := by
    rw [writeMembers]
    · simp only [writeString_some, List.append_assoc, List.cons_append, List.nil_append]
    · simp
  rw [text, members_head (skipSpace_cons rfl _) (stringTail_write name _) (skipSpace_cons rfl _)
    read, skipSpace_cons rfl]
  simp only [readLater]
  rfl

mutual

/-- A value is read back, with what follows it. -/
theorem value_write
    (value : Json)
    (fuel : Nat)
    (rest : List Char)
    (plain : value.isPlain = true)
    (enough : value.write.length ≤ fuel)
    (follows : Follows rest) :
    value? fuel (value.write ++ rest) = some (value, rest) := by
  obtain ⟨fuel, rfl⟩ : ∃ smaller, fuel = smaller + 1 :=
    Nat.exists_eq_add_of_le' (Nat.le_trans (length_write_pos plain) enough)
  match value with
  | .null => simp [write, value?, skipSpace, isSpace, keyword?]
  | .bool true => simp [write, value?, skipSpace, isSpace, keyword?]
  | .bool false => simp [write, value?, skipSpace, isSpace, keyword?]
  | .number (.integer size) => exact value_integer size follows
  | .number (.scaled _ _ _) => simp [isPlain] at plain
  | .string none => simp [isPlain] at plain
  | .string (some text) =>
      simp [write, writeString_some, value?, skipSpace, isSpace, stringTail_write]
  | .array [] => simp [write, writeItems, value?, skipSpace, isSpace]
  | .array (item :: items) =>
      simp only [isPlain] at plain
      have itemPlain : item.isPlain = true := by
        simp only [arePlainItems, Bool.and_eq_true] at plain
        exact plain.1
      apply value_array itemPlain
      apply items_write item items fuel rest plain
      simp only [write, List.length_append, List.length_cons, List.length_nil] at enough
      omega
  | .object [] => simp [write, writeMembers, value?, skipSpace, isSpace]
  | .object ((none, value) :: members) => simp [isPlain, arePlainMembers] at plain
  | .object ((some name, value) :: members) =>
      simp only [isPlain] at plain
      apply value_object
      apply members_write name value members fuel rest plain
      simp only [write, List.length_append, List.length_cons, List.length_nil] at enough
      omega
termination_by fuel

/-- The items of an array are read back up to the bracket. -/
theorem items_write
    (item : Json)
    (items : List Json)
    (fuel : Nat)
    (rest : List Char)
    (plain : arePlainItems (item :: items) = true)
    (enough : (writeItems (item :: items)).length + 1 ≤ fuel) :
    items? fuel (writeItems (item :: items) ++ ']' :: rest) = some (item :: items, rest) := by
  obtain ⟨fuel, rfl⟩ : ∃ smaller, fuel = smaller + 1 :=
    Nat.exists_eq_add_of_le' (Nat.le_trans (Nat.le_add_left 1 _) enough)
  have itemPlain : item.isPlain = true := by
    simp only [arePlainItems, Bool.and_eq_true] at plain
    exact plain.1
  match items with
  | [] =>
      apply items_last
      apply value_write item fuel (']' :: rest) itemPlain _ (.bracket rest)
      simpa [writeItems] using enough
  | second :: items =>
      have restPlain : arePlainItems (second :: items) = true := by
        rw [arePlainItems, Bool.and_eq_true] at plain
        exact plain.2
      have itemLength := length_write_pos itemPlain
      rw [writeItems, List.length_append, List.length_cons] at enough
      · apply items_more
        · exact value_write item fuel _ itemPlain (by omega) (.comma _)
        · exact items_write second items fuel rest restPlain (by omega)
      · simp
termination_by fuel

/-- The members of an object are read back up to the brace. -/
theorem members_write
    (name : String)
    (value : Json)
    (members : List (Option String × Json))
    (fuel : Nat)
    (rest : List Char)
    (plain : arePlainMembers ((some name, value) :: members) = true)
    (enough : (writeMembers ((some name, value) :: members)).length + 1 ≤ fuel) :
    members? fuel (writeMembers ((some name, value) :: members) ++ '\x7d' :: rest) =
      some ((some name, value) :: members, rest) := by
  obtain ⟨fuel, rfl⟩ : ∃ smaller, fuel = smaller + 1 :=
    Nat.exists_eq_add_of_le' (Nat.le_trans (Nat.le_add_left 1 _) enough)
  have valuePlain : value.isPlain = true := by
    simp only [arePlainMembers, Bool.and_eq_true] at plain
    exact plain.1.2
  match members with
  | [] =>
      apply members_last
      apply value_write value fuel _ valuePlain _ (.brace rest)
      rw [writeMembers, List.length_append, List.length_cons] at enough
      omega
  | (none, later) :: members =>
      simp [arePlainMembers] at plain
  | (some second, later) :: members =>
      have restPlain : arePlainMembers ((some second, later) :: members) = true := by
        rw [arePlainMembers, Bool.and_eq_true] at plain
        exact plain.2
      have valueLength := length_write_pos valuePlain
      rw [writeMembers, List.length_append, List.length_cons, List.length_append,
        List.length_cons] at enough
      · apply members_more
        · exact value_write value fuel _ valuePlain (by omega) (.comma _)
        · exact members_write second later members fuel rest restPlain (by omega)
      · simp
termination_by fuel

end

/-- Reading the text of a value gives the value. -/
theorem parse_render {value : Json} (plain : value.isPlain = true) :
    parse value.render = some value := by
  have read := value_write value (2 * value.write.length + 2) [] plain (by omega) .nothing
  rw [List.append_nil] at read
  simp [parse, render, read, skipSpace]

end Switchboard.Json
