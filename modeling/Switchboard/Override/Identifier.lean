import Switchboard.Text.Digits

namespace Switchboard

/-!
# Override identifiers

Identifiers of 128 bits, written as hexadecimal digits in groups of 8, 4, 4, 4
and 12.  Readers also take the digits without hyphens, and the grouped form in
braces or behind a name prefix.  Main statement: reading the written form gives
the identifier.
-/

/-- An identifier of 32 hexadecimal digits, each by its value. -/
structure OverrideId where
  digits : List (Fin 16)
  complete : digits.length = 32
  deriving DecidableEq

namespace OverrideId

/-- The identifier with a number of digits cut or filled up with zeros to 32. -/
def ofDigits (digits : List (Fin 16)) : OverrideId where
  digits := (digits ++ List.replicate 32 0).take 32
  complete := by simp

/-- The identifier whose last digits are those of a number. -/
def ofNat (number : Nat) : OverrideId :=
  ofDigits ((List.range 32).map fun place => Fin.ofNat 16 (number / 16 ^ (31 - place)))

/-- The small hexadecimal digit of a value. -/
def digitChar (digit : Fin 16) : Char :=
  Nat.digitChar digit.val

/-- The value of a hexadecimal digit of either case. -/
def digitValue? (c : Char) : Option (Fin 16) :=
  (Text.hexValue? c).map (Fin.ofNat 16)

/-- The digits with hyphens between the groups. -/
def grouped (characters : List Char) : List Char :=
  characters.take 8 ++ '-' :: (characters.drop 8).take 4 ++ '-' :: (characters.drop 12).take 4 ++
    '-' :: (characters.drop 16).take 4 ++ '-' :: characters.drop 20

/-- The written form. -/
def written (id : OverrideId) : String :=
  String.ofList (grouped (id.digits.map digitChar))

instance : Repr OverrideId where
  reprPrec id precedence := reprPrec id.written precedence

/-- The identifier of 32 digits. -/
def ofPlain? (characters : List Char) : Option OverrideId := do
  let digits ← characters.mapM digitValue?
  if complete : digits.length = 32 then some ⟨digits, complete⟩ else none

/-- The identifier of the grouped digits. -/
def ofGrouped? (characters : List Char) : Option OverrideId :=
  let plain :=
    characters.take 8 ++ (characters.drop 9).take 4 ++ (characters.drop 14).take 4 ++
      (characters.drop 19).take 4 ++ characters.drop 24
  if grouped plain = characters then ofPlain? plain else none

/-- The name that may stand before the grouped digits. -/
def urnName : List Char :=
  "urn:uuid:".toList

/-- The identifier of a text in any of the four forms. -/
def parse (text : String) : Option OverrideId :=
  let characters := text.toList
  if characters.length = 32 then ofPlain? characters
  else if characters.length = 36 then ofGrouped? characters
  else if characters.length = 38 then
    if characters.head? = some '\x7b' ∧ characters.getLast? = some '\x7d' then
      ofGrouped? (characters.drop 1).dropLast
    else none
  else if characters.length = 45 then
    if characters.take 9 = urnName then ofGrouped? (characters.drop 9) else none
  else none

/-- Every digit reads back. -/
theorem digitValue_digitChar (digit : Fin 16) : digitValue? (digitChar digit) = some digit := by
  revert digit
  decide

/-- Digits without hyphens read back. -/
theorem ofPlain_digits (id : OverrideId) : ofPlain? (id.digits.map digitChar) = some id := by
  obtain ⟨digits, complete⟩ := id
  have readBack : (digits.map digitChar).mapM digitValue? = some digits := by
    clear complete
    induction digits with
    | nil => rfl
    | cons digit rest inductionHypothesis =>
        simp [List.mapM_cons, digitValue_digitChar, inductionHypothesis]
  simp [ofPlain?, readBack, complete]

/-- Reading the written form gives the identifier. -/
theorem parse_written (id : OverrideId) : parse id.written = some id := by
  have size : (id.digits.map digitChar).length = 32 := by simp [id.complete]
  have plainRead := ofPlain_digits id
  unfold written
  generalize id.digits.map digitChar = characters at size plainRead ⊢
  match characters, size with
  | [a, b, c, d, e, f, g, h, i, j, k, l, m, n, o, p, q, r, s, t, u, v, w, x, y, z, a', b', c', d',
      e', f'], _ =>
    simpa [parse, grouped, ofGrouped?] using plainRead

end OverrideId

end Switchboard
