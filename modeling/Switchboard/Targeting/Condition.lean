import Switchboard.Rollout.Bucket
import Switchboard.Targeting.Context
import Switchboard.Text.Lowercase
import Switchboard.Text.Set
import Switchboard.Validation

namespace Switchboard

/-!
# Targeting conditions

One test of an evaluation context.  A part of the context that the test needs and
that is unknown makes the test fail.  Countries, mail domains and tags are
compared regardless of case, plans exactly.
-/

/-- One test of a context. -/
inductive Condition where
  | planIn (plans : TextSet)
  | countryIn (countries : TextSet)
  | emailDomainIn (domains : TextSet)
  | tenantTagIn (tags : TextSet)
  | timeWindow (opens closes : Option Instant)
  | percentage (threshold : UInt8)
  deriving DecidableEq, Repr

namespace Condition

/-- The set of the lower case forms of some texts. -/
def lowercaseSet (texts : List String) : TextSet :=
  TextSet.ofList (texts.map Text.lowercase)

/-- The plan is one of the given ones. -/
def ofPlans (plans : List String) : Condition :=
  .planIn (TextSet.ofList plans)

/-- The country is one of the given ones, which are kept in lower case. -/
def ofCountries (countries : List String) : Condition :=
  .countryIn (lowercaseSet countries)

/-- The mail domain is one of the given ones, which are kept in lower case. -/
def ofEmailDomains (domains : List String) : Condition :=
  .emailDomainIn (lowercaseSet domains)

/-- Some tag of the tenant is one of the given ones, which are kept in lower case. -/
def ofTenantTags (tags : List String) : Condition :=
  .tenantTagIn (lowercaseSet tags)

/-- The name of the kind of test. -/
def kind : Condition → String
  | .planIn _ => "planIn"
  | .countryIn _ => "countryIn"
  | .emailDomainIn _ => "emailDomainIn"
  | .tenantTagIn _ => "tenantTagIn"
  | .timeWindow _ _ => "timeWindow"
  | .percentage _ => "percentage"

/-- Refuse a test that no flag may have: more than all subjects, or a window that never opens. -/
def check : Condition → Except ValidationError Unit
  | .percentage threshold =>
      if 100 < threshold then .error (.percentageOutOfRange threshold) else .ok ()
  | .timeWindow (some opens) (some closes) =>
      if closes < opens then .error .invertedTimeWindow else .ok ()
  | _ => .ok ()

/-- The text after the last `@` of a mail address, if there is one and it is not empty. -/
def emailDomain? (email : String) : Option String :=
  match email.toList.reverse.span fun c => c != '@' with
  | (_, []) => none
  | ([], _ :: _) => none
  | (domain, _ :: _) => some (String.ofList domain.reverse)

/-- Whether a set has a text, regardless of case. -/
def containsIgnoringCase (set : TextSet) (text : String) : Bool :=
  let lowered := Text.lowercase text
  set.contains lowered || set.members.any fun member => Text.lowercase member == lowered

/-- Whether an instant lies in a window that includes its bounds. -/
def inWindow (opens closes : Option Instant) (now : Instant) : Bool :=
  opens.all (fun opens => decide (opens ≤ now)) && closes.all (fun closes => decide (now ≤ closes))

/-- Whether a context passes the test when the clock shows `clock`. -/
def holds (condition : Condition) (context : Context) (clock : Instant) : Bool :=
  match condition with
  | .planIn plans => context.plan.any plans.contains
  | .countryIn countries => context.country.any (containsIgnoringCase countries)
  | .emailDomainIn domains =>
      (context.email.bind emailDomain?).any (containsIgnoringCase domains)
  | .tenantTagIn tags => context.tenantTags.any fun owned => owned.any (containsIgnoringCase tags)
  | .timeWindow opens closes => inWindow opens closes (context.instantAt clock)
  | .percentage threshold => inRollout context.subject threshold.toNat

end Condition

end Switchboard
