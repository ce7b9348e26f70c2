import Switchboard.Targeting.Flag

namespace Switchboard

/-!
# Resolutions

The value of a flag for a context together with the tier that decided it.  The
first rule that holds decides, else the default of the flag; a flag that does not
exist is off.
-/

/-- The tier that decided a value. -/
inductive Reason where
  | userOverride
  | tenantOverride
  | ruleMatch (index : Nat)
  | default
  | flagNotFound
  deriving DecidableEq, Repr

namespace Reason

/-- The label of the tier. -/
def label : Reason → String
  | .userOverride => "user_override"
  | .tenantOverride => "tenant_override"
  | .ruleMatch _ => "rule_match"
  | .default => "default"
  | .flagNotFound => "flag_not_found"

/-- The label, with the index of the rule that decided. -/
def display : Reason → String
  | .ruleMatch index => "rule_match[" ++ String.ofList (Text.decimal index) ++ "]"
  | reason => reason.label

end Reason

/-- A value and the tier that decided it. -/
structure Resolution where
  value : Bool
  reason : Reason
  deriving DecidableEq, Repr

/-- The first rule that holds, with its index counted from `index`. -/
def firstMatch?
    (index : Nat)
    (context : Context)
    (clock : Instant) :
    List Rule → Option (Nat × Rule)
  | [] => none
  | rule :: rest =>
      if rule.holds context clock then some (index, rule)
      else firstMatch? (index + 1) context clock rest

namespace Flag

/-- The resolution of a flag from its rules and its default. -/
def resolve (flag : Flag) (context : Context) (clock : Instant) : Resolution :=
  match firstMatch? 0 context clock flag.rules with
  | some (index, rule) => ⟨rule.value, .ruleMatch index⟩
  | none => ⟨flag.enabledDefault, .default⟩

end Flag

/-- The resolution of a flag that may not exist. -/
def resolveFlag (flag? : Option Flag) (context : Context) (clock : Instant) : Resolution :=
  match flag? with
  | none => ⟨false, .flagNotFound⟩
  | some flag => flag.resolve context clock

end Switchboard
