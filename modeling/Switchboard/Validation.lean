import Switchboard.Text.Quoted

namespace Switchboard

/-!
# Validation

The names of flags and environments, and the reasons for which a request is
refused before anything is read or written.
-/

/-- The causes for which a request is refused. -/
inductive ValidationError where
  | emptyKeys
  | invalidFlagKey (key : String)
  | invalidEnvironment (name : String)
  | emptyScopeId
  | percentageOutOfRange (threshold : UInt8)
  | invertedTimeWindow
  deriving DecidableEq, Repr

namespace ValidationError

/-- The text that a caller sees. -/
def message : ValidationError → String
  | .emptyKeys => "at least one flag key is required"
  | .invalidFlagKey key => "invalid flag key: " ++ Text.quoted key
  | .invalidEnvironment name => "invalid environment name: " ++ Text.quoted name
  | .emptyScopeId => "scope id must not be empty"
  | .percentageOutOfRange threshold =>
      "percentage threshold " ++ String.ofList (Text.decimal threshold.toNat) ++
        " is greater than 100"
  | .invertedTimeWindow => "time window starts after it ends"

end ValidationError

/-- A small letter of the Latin alphabet. -/
def isSmallLetter (c : Char) : Bool :=
  'a' ≤ c && c ≤ 'z'

/-- A character that may follow the first one of an environment name. -/
def isNameChar (c : Char) : Bool :=
  isSmallLetter c || c.isDigit || c == '_'

/-- A character that may follow the first one of a flag key. -/
def isKeyChar (c : Char) : Bool :=
  isNameChar c || c == '.'

/-- Whether a text starts with a small letter and goes on with allowed characters. -/
def isIdentifier (allowed : Char → Bool) : List Char → Bool
  | [] => false
  | first :: rest => isSmallLetter first && rest.all allowed

/-- A flag key: 3 to 100 small letters, digits, underscores and points, a letter first. -/
def isFlagKey (key : String) : Bool :=
  3 ≤ key.toList.length && key.toList.length ≤ 100 && isIdentifier isKeyChar key.toList

/-- An environment name: 2 to 50 small letters, digits and underscores, a letter first. -/
def isEnvironment (name : String) : Bool :=
  2 ≤ name.toList.length && name.toList.length ≤ 50 && isIdentifier isNameChar name.toList

/-- Refuse what is no environment name. -/
def checkEnvironment (name : String) : Except ValidationError Unit :=
  if isEnvironment name then .ok () else .error (.invalidEnvironment name)

/-- Refuse what is no flag key. -/
def checkFlagKey (key : String) : Except ValidationError Unit :=
  if isFlagKey key then .ok () else .error (.invalidFlagKey key)

end Switchboard
