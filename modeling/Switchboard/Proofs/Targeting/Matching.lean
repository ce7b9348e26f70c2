import Switchboard.Proofs.Targeting.Aspects
import Switchboard.Proofs.Text.Lowercase
import Switchboard.Proofs.Time.RoundTrip

namespace Switchboard

/-!
# What conditions ask of a context

What each condition says of a context, without the way in which it is found out: a set that is
compared regardless of case has a text when the lower case forms of the text and of some member
are the same, and it does not matter whether the members are kept in lower case.
-/

/-- Regardless of case, some text of the given kind is a member of the set. -/
def TextSet.HasLike (set : TextSet) (kind : String → Prop) : Prop :=
  ∃ text, kind text ∧ ∃ member ∈ set.members, Text.lowercase text = Text.lowercase member

namespace Condition

/-- What a condition asks of a context and of the instant at which it is judged. -/
def IsMetBy (context : Context) (now : Instant) : Condition → Prop
  | .planIn plans => ∃ plan ∈ plans.members, context.plan = some plan
  | .countryIn countries => countries.HasLike fun country => context.country = some country
  | .emailDomainIn domains => domains.HasLike context.HasMailDomain
  | .tenantTagIn tags => tags.HasLike context.HasTag
  | .timeWindow opens closes => (∀ bound ∈ opens, bound ≤ now) ∧ ∀ bound ∈ closes, now ≤ bound
  | .percentage threshold => bucketOf context.subject < threshold.toNat

/-- The quick lookup finds no more than the comparison with each member. -/
theorem containsIgnoringCase_iff {set : TextSet} {text : String} :
    containsIgnoringCase set text = true ↔
      ∃ member ∈ set.members, Text.lowercase text = Text.lowercase member := by
  unfold containsIgnoringCase TextSet.contains
  simp only [Bool.or_eq_true, List.contains_iff_mem, List.any_eq_true, beq_iff_eq]
  constructor
  · rintro (quick | ⟨member, isMember, same⟩)
    · exact ⟨Text.lowercase text, quick, (Text.lowercase_lowercase text).symm⟩
    · exact ⟨member, isMember, same.symm⟩
  · rintro ⟨member, isMember, same⟩
    exact .inr ⟨member, isMember, same.symm⟩

/-- A part of the context passes when it is known and a set has it regardless of case. -/
theorem any_containsIgnoringCase_iff {set : TextSet} {part : Option String} :
    part.any (containsIgnoringCase set) = true ↔ set.HasLike fun text => part = some text := by
  cases part with
  | none => simp [TextSet.HasLike]
  | some text => simp [TextSet.HasLike, containsIgnoringCase_iff]

/-- The members of a set that is kept in lower case are the lower case forms of its texts. -/
theorem mem_lowercaseSet {texts : List String} {member : String} :
    member ∈ (lowercaseSet texts).members ↔ ∃ text ∈ texts, Text.lowercase text = member := by
  simp only [lowercaseSet, TextSet.mem_ofList, List.mem_map]

/-- A set that is kept in lower case has the same texts regardless of case. -/
theorem lowercaseSet_hasLike_iff {texts : List String} {kind : String → Prop} :
    (lowercaseSet texts).HasLike kind ↔ (TextSet.ofList texts).HasLike kind := by
  simp only [TextSet.HasLike, mem_lowercaseSet, TextSet.mem_ofList]
  constructor
  · rintro ⟨text, isKind, _, ⟨member, isMember, rfl⟩, same⟩
    exact ⟨text, isKind, member, isMember, same.trans (Text.lowercase_lowercase member)⟩
  · rintro ⟨text, isKind, member, isMember, same⟩
    exact ⟨text, isKind, _, ⟨member, isMember, rfl⟩,
      same.trans (Text.lowercase_lowercase member).symm⟩

section Parts

variable {context : Context} {now : Instant}

private theorem hasTag_hasLike_iff {set : TextSet} :
    set.HasLike context.HasTag ↔
      (context.tenantTags.any fun owned => owned.any (containsIgnoringCase set)) = true := by
  cases known : context.tenantTags with
  | none => simp [TextSet.HasLike, Context.HasTag, known]
  | some tags => simp [TextSet.HasLike, Context.HasTag, known, containsIgnoringCase_iff]

private theorem planIn_holds_iff {plans : TextSet} :
    context.plan.any plans.contains = true ↔ ∃ plan ∈ plans.members, context.plan = some plan := by
  cases known : context.plan with
  | none => simp
  | some plan => simp [TextSet.contains]

private theorem inWindow_iff {opens closes : Option Instant} :
    inWindow opens closes now = true ↔
      (∀ bound ∈ opens, bound ≤ now) ∧ ∀ bound ∈ closes, now ≤ bound := by
  unfold inWindow
  rw [Bool.and_eq_true]
  refine and_congr ?_ ?_
  · cases opens <;> simp
  · cases closes <;> simp

end Parts

/-- A condition holds exactly where the context meets it at the instant of the evaluation. -/
theorem holds_iff_isMetBy (condition : Condition) (context : Context) (clock : Instant) :
    condition.holds context clock = true ↔ condition.IsMetBy context (context.instantAt clock) := by
  cases condition with
  | planIn plans => exact planIn_holds_iff
  | countryIn countries => exact any_containsIgnoringCase_iff
  | emailDomainIn domains =>
      simp only [holds, IsMetBy, any_containsIgnoringCase_iff, TextSet.HasLike,
        Aspect.hasMailDomain_iff]
  | tenantTagIn tags => exact hasTag_hasLike_iff.symm
  | timeWindow opens closes => exact inWindow_iff
  | percentage threshold => exact decide_eq_true_iff

/--
Where a context brings its instant, a condition holds exactly if the context meets it: the plan
is a member as it is written; the country, the text after the last `@` of the mail address or
some tag is a member in lower case; the instant lies between the bounds that there are; the
bucket of the subject is below the threshold.  Conditions that are made of texts keep the lower
case forms of these and nothing else, and decide as the texts themselves would.
-/
theorem conditions_hold_where_met :
    (∀ (condition : Condition) (context : Context) (clock now : Instant),
      context.now = some now →
        (condition.holds context clock = true ↔ condition.IsMetBy context now)) ∧
      ∀ texts : List String, ∃ lowered : TextSet,
        (∀ member, member ∈ lowered.members ↔ ∃ text ∈ texts, Text.lowercase text = member) ∧
          ofCountries texts = countryIn lowered ∧
          ofEmailDomains texts = emailDomainIn lowered ∧
          ofTenantTags texts = tenantTagIn lowered ∧
          ∀ (context : Context) (clock : Instant),
            (ofCountries texts).holds context clock =
                (countryIn (TextSet.ofList texts)).holds context clock ∧
              (ofEmailDomains texts).holds context clock =
                (emailDomainIn (TextSet.ofList texts)).holds context clock ∧
              (ofTenantTags texts).holds context clock =
                (tenantTagIn (TextSet.ofList texts)).holds context clock := by
  refine ⟨fun condition context clock now known => ?_, fun texts =>
    ⟨lowercaseSet texts, fun _ => mem_lowercaseSet, rfl, rfl, rfl, fun context clock => ?_⟩⟩
  · have judged : context.instantAt clock = now := by
      rw [Context.instantAt, known, Option.getD_some]
    exact judged ▸ condition.holds_iff_isMetBy context clock
  · have alike {first second : Condition}
        (same : first.IsMetBy context (context.instantAt clock) ↔
          second.IsMetBy context (context.instantAt clock)) :
        first.holds context clock = second.holds context clock := by
      rw [Bool.eq_iff_iff, holds_iff_isMetBy, holds_iff_isMetBy]
      exact same
    exact ⟨alike lowercaseSet_hasLike_iff, alike lowercaseSet_hasLike_iff,
      alike lowercaseSet_hasLike_iff⟩

namespace FinalSigma

/-- A tag in capital letters whose last letter has a form of its own at the end of a word. -/
def tags : List String :=
  ["ΟΔΟΣ"]

/-- A tenant that has the tag in small letters but for the first. -/
def context : Context where
  tenantTags := some ["acme", "Οδος"]
  now := some Instant.mayDay

end FinalSigma

/-- A tag is kept with the last sigma of small letters, and found however it is written. -/
theorem conditions_hold_where_met_sigma :
    FinalSigma.context.now = some Instant.mayDay ∧
      (tenantTagIn (TextSet.ofList FinalSigma.tags)).holds FinalSigma.context Instant.mayDay =
        true ∧
      ∃ lowered, ofTenantTags FinalSigma.tags = tenantTagIn lowered ∧
        "οδος" ∈ lowered.members ∧ "ΟΔΟΣ" ∉ lowered.members ∧
        (ofTenantTags FinalSigma.tags).holds FinalSigma.context Instant.mayDay = true := by
  have known : FinalSigma.context.now = some Instant.mayDay := rfl
  have meets : (tenantTagIn (TextSet.ofList FinalSigma.tags)).IsMetBy FinalSigma.context
      Instant.mayDay :=
    ⟨"Οδος", ⟨_, rfl, by decide⟩, "ΟΔΟΣ", by decide, by decide +kernel⟩
  have found := (conditions_hold_where_met.1 _ _ Instant.mayDay _ known).mpr meets
  obtain ⟨lowered, members, _, _, kept, decides⟩ := conditions_hold_where_met.2 FinalSigma.tags
  refine ⟨known, found, lowered, kept, ?_, ?_, (decides _ _).2.2.trans found⟩
  · exact (members _).mpr ⟨"ΟΔΟΣ", by simp [FinalSigma.tags], by decide +kernel⟩
  · intro member
    obtain ⟨text, isTag, same⟩ := (members _).mp member
    obtain rfl := List.mem_singleton.mp isTag
    exact absurd same (by decide +kernel)

end Condition

end Switchboard
