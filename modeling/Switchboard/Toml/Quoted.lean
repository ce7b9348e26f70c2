import Switchboard.Text.Digits

namespace Switchboard.Toml

/-!
# Strings

The four kinds of TOML strings: basic ones, in which a backslash begins an escape,
and literal ones, in which it does not, each on one line or on several.  The readers
start behind the opening marks and give the characters of the string and the rest.
-/

/-- A character that comments and strings may hold as it is. -/
def isPrintable (c : Char) : Bool :=
  c == '\t' || (0x20 ≤ c.toNat && c.toNat != 0x7F)

/-- The blanks within a line. -/
def isSpace (c : Char) : Bool :=
  c == ' ' || c == '\t'

/-- Skip the blanks within a line. -/
def skipSpace (text : List Char) : List Char :=
  text.dropWhile isSpace

/-- The rest of a text after the line end that it must start with. -/
def newline? : List Char → Option (List Char)
  | '\n' :: rest => some rest
  | '\r' :: '\n' :: rest => some rest
  | _ => none

/-- Skip one line end, if there is one. -/
def dropNewline (text : List Char) : List Char :=
  (newline? text).getD text

/-- The character that hexadecimal digits name, if it is one. -/
def namedChar? (digits : List Char) : Option Char := do
  let code ← Text.hexadecimalValue? digits
  if valid : code.isValidChar then some (Char.ofNatAux code valid) else none

/-- The character after a backslash that stands for itself or for a control. -/
def shortEscape? (c : Char) : Option Char :=
  if c = '"' ∨ c = '\\' then some c
  else if c = 'b' then some '\x08'
  else if c = 't' then some '\t'
  else if c = 'n' then some '\n'
  else if c = 'f' then some '\x0c'
  else if c = 'r' then some '\r'
  else none

/-- The character of an escape whose backslash is behind, and the rest. -/
def escape? : List Char → Option (Char × List Char)
  | 'u' :: rest =>
      if 4 ≤ rest.length then (namedChar? (rest.take 4)).map fun c => (c, rest.drop 4) else none
  | 'U' :: rest =>
      if 8 ≤ rest.length then (namedChar? (rest.take 8)).map fun c => (c, rest.drop 8) else none
  | c :: rest => (shortEscape? c).map fun c => (c, rest)
  | [] => none

/-- An escape takes at least one character. -/
theorem length_lt_of_escape {text rest : List Char} {c : Char}
    (read : escape? text = some (c, rest)) : rest.length < text.length := by
  unfold escape? at read
  split at read
  · split at read
    · simp only [Option.map_eq_some_iff, Prod.mk.injEq] at read
      obtain ⟨_, _, _, rfl⟩ := read
      simp only [List.length_drop, List.length_cons]
      omega
    · simp at read
  · split at read
    · simp only [Option.map_eq_some_iff, Prod.mk.injEq] at read
      obtain ⟨_, _, _, rfl⟩ := read
      simp only [List.length_drop, List.length_cons]
      omega
    · simp at read
  · simp only [Option.map_eq_some_iff, Prod.mk.injEq] at read
    obtain ⟨_, _, _, rfl⟩ := read
    simp
  · simp at read

/-- A basic string on one line. -/
def basic? (text : List Char) : Option (List Char × List Char) :=
  match text with
  | [] => none
  | '"' :: rest => some ([], rest)
  | '\\' :: rest =>
      match _read : escape? rest with
      | none => none
      | some (c, rest) => (basic? rest).map fun (characters, rest) => (c :: characters, rest)
  | c :: rest =>
      if isPrintable c then
        (basic? rest).map fun (characters, rest) => (c :: characters, rest)
      else none
termination_by text.length
decreasing_by
  · have shorter := length_lt_of_escape _read
    simp only [List.length_cons]
    omega
  · simp

/-- Skip blanks and line ends. -/
def skipLines : List Char → List Char
  | ' ' :: rest => skipLines rest
  | '\t' :: rest => skipLines rest
  | '\n' :: rest => skipLines rest
  | '\r' :: '\n' :: rest => skipLines rest
  | rest => rest

/-- Skipping never makes a text longer. -/
theorem length_skipLines_le (text : List Char) : (skipLines text).length ≤ text.length := by
  fun_induction skipLines text <;> simp only [List.length_cons, Nat.le_refl] <;> omega

/-- The rest of a text that a backslash, now behind, joins to the line before. -/
def joined? (text : List Char) : Option (List Char) :=
  (newline? (skipSpace text)).map skipLines

/-- Joining takes at least the line end. -/
theorem length_lt_of_joined {text rest : List Char} (read : joined? text = some rest) :
    rest.length < text.length := by
  simp only [joined?, Option.map_eq_some_iff] at read
  obtain ⟨line, found, rfl⟩ := read
  have skipped : (skipSpace text).length ≤ text.length := (List.dropWhile_suffix _).length_le
  have kept := length_skipLines_le line
  have taken : line.length < (skipSpace text).length := by
    generalize skipSpace text = start at found
    unfold newline? at found
    split at found
    · simp only [Option.some.injEq] at found
      subst found
      simp
    · simp only [Option.some.injEq] at found
      subst found
      simp only [List.length_cons]
      omega
    · simp at found
  omega

/--
A basic string on several lines.  One or two quotation marks belong to it, also
right before the three that close it; a backslash at the end of a line joins the
next one that is not blank.
-/
def basicLines? (text : List Char) : Option (List Char × List Char) :=
  match text with
  | [] => none
  | '"' :: '"' :: '"' :: '"' :: '"' :: rest => some (['"', '"'], rest)
  | '"' :: '"' :: '"' :: '"' :: rest => some (['"'], rest)
  | '"' :: '"' :: '"' :: rest => some ([], rest)
  | '\r' :: '\n' :: rest =>
      (basicLines? rest).map fun (characters, rest) => ('\n' :: characters, rest)
  | '\\' :: rest =>
      match _joined : joined? rest with
      | some rest => basicLines? rest
      | none =>
          match _read : escape? rest with
          | none => none
          | some (c, rest) =>
              (basicLines? rest).map fun (characters, rest) => (c :: characters, rest)
  | c :: rest =>
      if c = '\n' ∨ isPrintable c then
        (basicLines? rest).map fun (characters, rest) => (c :: characters, rest)
      else none
termination_by text.length
decreasing_by
  · simp only [List.length_cons]
    omega
  · have shorter := length_lt_of_joined _joined
    simp only [List.length_cons]
    omega
  · have shorter := length_lt_of_escape _read
    simp only [List.length_cons]
    omega
  · simp

/-- A literal string on one line. -/
def literal? : List Char → Option (List Char × List Char)
  | [] => none
  | '\x27' :: rest => some ([], rest)
  | c :: rest =>
      if isPrintable c then
        (literal? rest).map fun (characters, rest) => (c :: characters, rest)
      else none

/-- A literal string on several lines; one or two apostrophes belong to it. -/
def literalLines? : List Char → Option (List Char × List Char)
  | [] => none
  | '\x27' :: '\x27' :: '\x27' :: '\x27' :: '\x27' :: rest => some (['\x27', '\x27'], rest)
  | '\x27' :: '\x27' :: '\x27' :: '\x27' :: rest => some (['\x27'], rest)
  | '\x27' :: '\x27' :: '\x27' :: rest => some ([], rest)
  | '\r' :: '\n' :: rest =>
      (literalLines? rest).map fun (characters, rest) => ('\n' :: characters, rest)
  | c :: rest =>
      if c = '\n' ∨ isPrintable c then
        (literalLines? rest).map fun (characters, rest) => (c :: characters, rest)
      else none

/-- A string of any kind with its marks. -/
def string? : List Char → Option (String × List Char)
  | '"' :: '"' :: '"' :: rest => text (basicLines? (dropNewline rest))
  | '"' :: rest => text (basic? rest)
  | '\x27' :: '\x27' :: '\x27' :: rest => text (literalLines? (dropNewline rest))
  | '\x27' :: rest => text (literal? rest)
  | _ => none
where
  /-- The text of the characters. -/
  text (read : Option (List Char × List Char)) : Option (String × List Char) :=
    read.map fun (characters, rest) => (String.ofList characters, rest)

end Switchboard.Toml
