import Switchboard.Text.CaseTables
import Switchboard.Text.Quoted

namespace Switchboard.Text

/-!
# Lower case

The full lower case form of a text: every capital letter becomes its small one,
the capital I with a dot becomes two characters, and a capital sigma becomes the
final form at the end of a word.  A text counts as equal to another regardless of
case when the lower case forms of both are the same.
-/

namespace CaseRun

/-- The lower case form of a code point that the run contains. -/
def lower? (run : CaseRun) (code : Nat) : Option Nat :=
  if run.first ≤ code ∧ code ≤ run.last ∧ (code - run.first) % run.step = 0 then
    some (run.lowerFirst + (code - run.first))
  else
    none

end CaseRun

/-- The lower case form of a single code point where it is a single code point. -/
def lowerCode (code : Nat) : Nat :=
  if code < 128 then
    if 65 ≤ code ∧ code ≤ 90 then code + 32 else code
  else
    (lowerRuns.findSome? fun run => run.lower? code).getD code

/-- Whether a character has letter case. -/
def isCased (c : Char) : Bool :=
  inRanges casedRanges c.toNat

/-- Whether casing rules look through a character. -/
def isCaseIgnorable (c : Char) : Bool :=
  inRanges caseIgnorableRanges c.toNat

/-- Whether the first character that casing rules do not look through has letter case. -/
def startsCased (text : List Char) : Bool :=
  match text.dropWhile isCaseIgnorable with
  | [] => false
  | c :: _ => isCased c

/-- A capital sigma is final when a cased letter stands before it and none after it. -/
def lowerSigma (before after : List Char) : Char :=
  if startsCased before && !startsCased after then 'ς' else 'σ'

/-- The lower case form of one character between its neighbours; `before` is nearest first. -/
def lowerChar (before : List Char) (c : Char) (after : List Char) : List Char :=
  if c = 'Σ' then [lowerSigma before after]
  else if c = 'İ' then ['i', '\u0307']
  else [Char.ofNat (lowerCode c.toNat)]

/-- The lower case form of a text whose earlier characters, nearest first, are given. -/
def lowercaseFrom (before : List Char) : List Char → List Char
  | [] => []
  | c :: after => lowerChar before c after ++ lowercaseFrom (c :: before) after

/-- The full lower case form of a text. -/
def lowercase (text : String) : String :=
  String.ofList (lowercaseFrom [] text.toList)

end Switchboard.Text
