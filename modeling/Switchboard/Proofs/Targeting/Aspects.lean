import Mathlib.Data.List.TakeDrop
import Mathlib.Data.List.TakeWhile
import Switchboard.Proofs.Targeting.Comparison

namespace Switchboard

/-!
# What a flag sees of a context

A condition looks at one aspect of a context.  It sees the plan, the instant and the subject as
they are; it sees countries, mail domains and tags in lower case only, and of the tags only which
there are.  A flag is resolved alike, with the same reason, for contexts that agree on the aspects
at which its conditions look, whatever else they tell.
-/

/-! ## Aspects of a context -/

/-- What a condition looks at. -/
inductive Aspect where
  | plan
  | country
  | mailDomain
  | tenantTags
  | instant
  | subject
  deriving DecidableEq, Repr

/-- The aspect at which the condition looks. -/
def Condition.aspect : Condition → Aspect
  | .planIn _ => .plan
  | .countryIn _ => .country
  | .emailDomainIn _ => .mailDomain
  | .tenantTagIn _ => .tenantTags
  | .timeWindow _ _ => .instant
  | .percentage _ => .subject

/-- Some condition of a rule of the flag looks at the aspect. -/
def Flag.Targets (flag : Flag) (aspect : Aspect) : Prop :=
  ∃ rule ∈ flag.rules, ∃ condition ∈ rule.conditions, condition.aspect = aspect

namespace Context

/-- The text stands after the last `@` of the mail address and is not empty. -/
def HasMailDomain (context : Context) (domain : String) : Prop :=
  ∃ name, context.email = some (name ++ "@" ++ domain) ∧ '@' ∉ domain.toList ∧ domain ≠ ""

/-- The tag is among those of the tenant. -/
def HasTag (context : Context) (tag : String) : Prop :=
  ∃ tags, context.tenantTags = some tags ∧ tag ∈ tags

end Context

/-- The given text is the lower case form of some text of the given kind. -/
def Text.IsLowered (kind : String → Prop) (lowered : String) : Prop :=
  ∃ text, kind text ∧ Text.lowercase text = lowered

/--
Two contexts agree on an aspect.  Both must have the instant, since one that is left out is read
off a clock; the other aspects may be unknown in both.
-/
def Aspect.Agrees (first second : Context) : Aspect → Prop
  | .plan => first.plan = second.plan
  | .country => first.country.map Text.lowercase = second.country.map Text.lowercase
  | .mailDomain =>
      ∀ lowered, Text.IsLowered first.HasMailDomain lowered ↔
        Text.IsLowered second.HasMailDomain lowered
  | .tenantTags =>
      ∀ lowered, Text.IsLowered first.HasTag lowered ↔ Text.IsLowered second.HasTag lowered
  | .instant => ∃ now, first.now = some now ∧ second.now = some now
  | .subject => first.subject = second.subject

namespace Condition

/-! ## Mail domains -/

/-- A text is cut before the first separator. -/
private theorem span_separator_iff {separator c : Char} {text before after : List Char} :
    text.span (· != separator) = (before, c :: after) ↔
      text = before ++ c :: after ∧ separator ∉ before ∧ c = separator := by
  rw [List.span_eq_takeWhile_dropWhile, Prod.mk.injEq]
  constructor
  · rintro ⟨rfl, rest⟩
    refine ⟨by rw [← rest, List.takeWhile_append_dropWhile], fun member => ?_, ?_⟩
    · simpa using List.mem_takeWhile_imp member
    · have stopped := List.head?_dropWhile_not (· != separator) text
      simpa [rest] using stopped
  · rintro ⟨rfl, absent, rfl⟩
    have passes : ∀ other ∈ before, (other != c) = true :=
      fun other member => bne_iff_ne.mpr fun same => absent (same ▸ member)
    rw [List.takeWhile_append_of_pos passes, List.dropWhile_append_of_pos passes]
    simp

/-- The domain of a mail address is the text after its last `@`, unless that is empty. -/
theorem emailDomain?_eq_some_iff {email domain : String} :
    emailDomain? email = some domain ↔
      ∃ name, email = name ++ "@" ++ domain ∧ '@' ∉ domain.toList ∧ domain ≠ "" := by
  constructor
  · intro found
    unfold emailDomain? at found
    split at found
    · cases found
    · cases found
    · rename_i reversed c after nonempty cut
      obtain rfl := Option.some.inj found
      obtain ⟨text, absent, rfl⟩ := span_separator_iff.mp cut
      refine ⟨String.ofList after.reverse, ?_, by simpa using absent, by simpa using nonempty⟩
      rw [← String.toList_inj]
      simpa using congrArg List.reverse text
  · rintro ⟨name, rfl, absent, nonempty⟩
    have cut : (name ++ "@" ++ domain).toList.reverse.span (· != '@') =
        (domain.toList.reverse, '@' :: name.toList.reverse) :=
      span_separator_iff.mpr ⟨by simp, by simpa using absent, rfl⟩
    unfold emailDomain?
    rw [cut]
    cases reversed : domain.toList.reverse with
    | nil => exact absurd (by simpa using reversed) nonempty
    | cons c rest => simp [← reversed]

end Condition

/-! ## Agreement as it is computed -/

namespace Aspect

variable {context first second : Context} {lowered : String}

/-- The mail domain of a context is what is read of its mail address. -/
theorem hasMailDomain_iff {domain : String} :
    context.HasMailDomain domain ↔
      context.email.bind Condition.emailDomain? = some domain := by
  simp only [Context.HasMailDomain, Option.bind_eq_some_iff, Condition.emailDomain?_eq_some_iff]
  constructor
  · rintro ⟨name, isEmail, last⟩
    exact ⟨_, isEmail, name, rfl, last⟩
  · rintro ⟨email, isEmail, name, rfl, last⟩
    exact ⟨name, isEmail, last⟩

/-- The mail domain of a context in lower case. -/
theorem isLowered_hasMailDomain_iff :
    Text.IsLowered context.HasMailDomain lowered ↔
      (context.email.bind Condition.emailDomain?).map Text.lowercase = some lowered := by
  simp only [Text.IsLowered, hasMailDomain_iff, Option.map_eq_some_iff]

/-- The tags of a context in lower case. -/
theorem isLowered_hasTag_iff :
    Text.IsLowered context.HasTag lowered ↔
      lowered ∈ (context.tenantTags.getD []).map Text.lowercase := by
  cases known : context.tenantTags with
  | none => simp [Text.IsLowered, Context.HasTag, known]
  | some tags => simp [Text.IsLowered, Context.HasTag, known]

/-- To agree on the mail domain is to have the same one, or none, in lower case. -/
theorem agrees_mailDomain_iff :
    mailDomain.Agrees first second ↔
      (first.email.bind Condition.emailDomain?).map Text.lowercase =
        (second.email.bind Condition.emailDomain?).map Text.lowercase := by
  simp only [Agrees, isLowered_hasMailDomain_iff]
  exact Option.ext_iff.symm

/-- To agree on the tags is to have the same ones in lower case, in any order and number. -/
theorem agrees_tenantTags_iff :
    tenantTags.Agrees first second ↔
      ∀ lowered, lowered ∈ (first.tenantTags.getD []).map Text.lowercase ↔
        lowered ∈ (second.tenantTags.getD []).map Text.lowercase := by
  simp only [Agrees, isLowered_hasTag_iff]

end Aspect

namespace Condition

/-! ## Conditions -/

section Agreement

variable {context first second : Context} {clock later : Instant}

/-- Whether a set has a text whose lower case form is the given one. -/
private def containsLowered (set : TextSet) (lowered : String) : Bool :=
  set.contains lowered || set.members.any fun member => Text.lowercase member == lowered

/-- A text is looked for in lower case. -/
private theorem any_containsIgnoringCase (set : TextSet) (text? : Option String) :
    text?.any (containsIgnoringCase set) =
      (text?.map Text.lowercase).any (containsLowered set) := by
  rw [Option.any_map]
  rfl

/-- Tags are looked for in lower case, and unknown ones as if there were none. -/
private theorem holds_tenantTagIn (set : TextSet) :
    (tenantTagIn set).holds context clock =
      ((context.tenantTags.getD []).map Text.lowercase).any (containsLowered set) := by
  rw [List.any_map]
  cases known : context.tenantTags with
  | none => simp [holds, known]
  | some tags => simp only [holds, known, Option.any_some, Option.getD_some]; rfl

/-- What is in a list does not depend on the order and number of its members. -/
private theorem any_of_same_members {texts others : List String} {test : String → Bool}
    (same : ∀ text, text ∈ texts ↔ text ∈ others) :
    texts.any test = others.any test := by
  rw [Bool.eq_iff_iff, List.any_eq_true, List.any_eq_true]
  simp only [same]

/-- A condition holds alike for contexts that agree on its aspect. -/
theorem holds_congr (condition : Condition) (agree : condition.aspect.Agrees first second) :
    condition.holds first clock = condition.holds second later := by
  cases condition with
  | planIn plans =>
      have same : first.plan = second.plan := agree
      simp only [holds, same]
  | countryIn countries =>
      have same : first.country.map Text.lowercase = second.country.map Text.lowercase := agree
      simp only [holds, any_containsIgnoringCase, same]
  | emailDomainIn domains =>
      simp only [holds, any_containsIgnoringCase, Aspect.agrees_mailDomain_iff.mp agree]
  | tenantTagIn tags =>
      rw [holds_tenantTagIn, holds_tenantTagIn]
      exact any_of_same_members (Aspect.agrees_tenantTags_iff.mp agree)
  | timeWindow opens closes =>
      obtain ⟨now, isFirst, isSecond⟩ := agree
      simp only [holds, Context.instantAt, isFirst, isSecond, Option.getD_some]
  | percentage threshold =>
      have same : first.subject = second.subject := agree
      simp only [holds, same]

end Agreement

end Condition

/-- A rule holds alike for contexts that agree on the aspects of its conditions. -/
theorem Rule.holds_congr {first second : Context} {clock later : Instant} (rule : Rule)
    (agree : ∀ condition ∈ rule.conditions, condition.aspect.Agrees first second) :
    rule.holds first clock = rule.holds second later := by
  rw [Bool.eq_iff_iff, Rule.holds_iff, Rule.holds_iff]
  exact forall₂_congr fun condition member => by
    rw [condition.holds_congr (agree condition member)]

/-! ## Flags -/

namespace Flag

/--
A flag is resolved alike, with the same reason, for two contexts that agree on every aspect that
it targets, whatever else is told in them and whatever the clocks show.
-/
theorem resolve_sees_only_targets (flag : Flag) {first second : Context}
    (agree : ∀ aspect, flag.Targets aspect → aspect.Agrees first second)
    (clock later : Instant) :
    resolveFlag (some flag) first clock = resolveFlag (some flag) second later := by
  refine resolve_congr (List.forall₂_same.mpr fun rule isRule => ⟨rfl, ?_⟩) rfl
  refine rule.holds_congr fun condition member => ?_
  exact agree condition.aspect ⟨rule, isRule, condition, member, rfl⟩

namespace Regional

/-- The instant of the first context. -/
def now : Instant :=
  .startOf ⟨2024, 10, 7, by decide⟩

/-- Off for one mail domain, and on for half of the subjects in a country who have a tag. -/
def flag : Flag where
  environment := "prod"
  key := "beta.search"
  enabledDefault := false
  rules :=
    [⟨[.ofEmailDomains ["rival.org"]], false⟩,
      ⟨[.ofCountries ["DE"], .ofTenantTags ["Beta"], .percentage 50], true⟩]
  version := 4
  lastEditorId := none
  createdAt := now
  updatedAt := now

/-- A user with a tag, of no rival mail domain, who pays. -/
def user : Context where
  userId := some "user2"
  tenantId := some "acme"
  email := some "user2@work@Example.COM"
  country := some "De"
  tenantTags := some ["BETA", "eu"]
  plan := some "pro"
  now := some now

/-- A tenant with the same subject, and with the country and tags in other spellings. -/
def tenant : Context where
  tenantId := some "user2"
  email := some "other@example.com"
  country := some "dE"
  tenantTags := some ["EU", "beta", "Eu"]
  now := some (.startOf ⟨2025, 1, 1, by decide⟩)

private theorem agree (aspect : Aspect) (targeted : flag.Targets aspect) :
    aspect.Agrees user tenant := by
  cases aspect with
  | plan => exact absurd targeted (by unfold Targets; decide +kernel)
  | country =>
      have same : user.country.map Text.lowercase = tenant.country.map Text.lowercase := by
        decide +kernel
      exact same
  | mailDomain => exact Aspect.agrees_mailDomain_iff.mpr (by decide +kernel)
  | tenantTags =>
      have first : (user.tenantTags.getD []).map Text.lowercase = ["beta", "eu"] := by
        decide +kernel
      have second : (tenant.tenantTags.getD []).map Text.lowercase = ["eu", "beta", "eu"] := by
        decide +kernel
      refine Aspect.agrees_tenantTags_iff.mpr fun lowered => ?_
      rw [first, second]
      grind
  | instant => exact absurd targeted (by unfold Targets; decide +kernel)
  | subject => rfl

end Regional

open Regional in
/-- A user and a tenant get the flag by the same rule, whatever their plans and instants are. -/
theorem resolve_sees_only_targets_regional :
    (∀ aspect, flag.Targets aspect → aspect.Agrees user tenant) ∧
      resolveFlag (some flag) user now = ⟨true, .ruleMatch 1⟩ ∧
        resolveFlag (some flag) tenant now = ⟨true, .ruleMatch 1⟩ := by
  have alike := flag.resolve_sees_only_targets agree now now
  have resolved : resolveFlag (some flag) user now = ⟨true, .ruleMatch 1⟩ := by decide +kernel
  exact ⟨agree, resolved, alike.symm.trans resolved⟩

end Flag

end Switchboard
