import Mathlib.Logic.Relation
import Switchboard.Proofs.Targeting.Comparison

namespace Switchboard

/-!
# Edits in favour of a flag

An edit in favour of a flag loosens a condition of a rule that gives true, or drops it; it
tightens a condition of a rule that gives false, or adds one; or it makes the default true.
Rules keep their places and their values.  Whoever has the flag switched on keeps it through any
number of such edits, and a raised percentage changes the answer for nobody but those whose
bucket it takes in.
-/

/-! ## Conditions -/

namespace Condition

/-- The set of the test was enlarged, its window widened or its threshold raised. -/
inductive Loosens : Condition → Condition → Prop where
  | planIn {plans more : TextSet}
      (enlarged : ∀ plan ∈ plans.members, plan ∈ more.members) :
      Loosens (.planIn plans) (.planIn more)
  | countryIn {countries more : TextSet}
      (enlarged : ∀ country ∈ countries.members, country ∈ more.members) :
      Loosens (.countryIn countries) (.countryIn more)
  | emailDomainIn {domains more : TextSet}
      (enlarged : ∀ domain ∈ domains.members, domain ∈ more.members) :
      Loosens (.emailDomainIn domains) (.emailDomainIn more)
  | tenantTagIn {tags more : TextSet}
      (enlarged : ∀ tag ∈ tags.members, tag ∈ more.members) :
      Loosens (.tenantTagIn tags) (.tenantTagIn more)
  | timeWindow {opens closes opensNow closesNow : Option Instant}
      (opensEarlier : ∀ bound ∈ opensNow, ∃ before ∈ opens, bound ≤ before)
      (closesLater : ∀ bound ∈ closesNow, ∃ before ∈ closes, before ≤ bound) :
      Loosens (.timeWindow opens closes) (.timeWindow opensNow closesNow)
  | percentage {lower higher : UInt8}
      (raised : lower ≤ higher) :
      Loosens (.percentage lower) (.percentage higher)

private theorem contains_mono {set more : TextSet} {text : String}
    (enlarged : ∀ member ∈ set.members, member ∈ more.members)
    (contained : set.contains text = true) :
    more.contains text = true :=
  List.contains_iff_mem.mpr (enlarged text (List.contains_iff_mem.mp contained))

private theorem containsIgnoringCase_mono {set more : TextSet} {text : String}
    (enlarged : ∀ member ∈ set.members, member ∈ more.members)
    (contained : containsIgnoringCase set text = true) :
    containsIgnoringCase more text = true := by
  rcases Bool.or_eq_true_iff.mp contained with lowered | some
  · exact Bool.or_eq_true_iff.mpr (.inl (contains_mono enlarged lowered))
  · obtain ⟨member, isMember, same⟩ := List.any_eq_true.mp some
    exact Bool.or_eq_true_iff.mpr
      (.inr (List.any_eq_true.mpr ⟨member, enlarged member isMember, same⟩))

private theorem any_mono {test wider : α → Bool}
    (implies : ∀ value, test value = true → wider value = true)
    {value? : Option α}
    (passed : value?.any test = true) :
    value?.any wider = true := by
  obtain ⟨value, present, passes⟩ := (Option.any_eq_true test value?).mp passed
  exact (Option.any_eq_true wider value?).mpr ⟨value, present, implies value passes⟩

private theorem inWindow_mono {opens closes opensNow closesNow : Option Instant} {now : Instant}
    (opensEarlier : ∀ bound ∈ opensNow, ∃ before ∈ opens, bound ≤ before)
    (closesLater : ∀ bound ∈ closesNow, ∃ before ∈ closes, before ≤ bound)
    (inside : inWindow opens closes now = true) :
    inWindow opensNow closesNow now = true := by
  simp only [inWindow, Bool.and_eq_true, Option.all_eq_true, decide_eq_true_eq] at inside ⊢
  obtain ⟨afterOpening, beforeClosing⟩ := inside
  constructor
  · intro bound isBound
    obtain ⟨before, wasBound, earlier⟩ := opensEarlier bound isBound
    exact Int.le_trans earlier (afterOpening before wasBound)
  · intro bound isBound
    obtain ⟨before, wasBound, later⟩ := closesLater bound isBound
    exact Int.le_trans (beforeClosing before wasBound) later

/-- Who passes a test passes it after it was loosened. -/
theorem Loosens.holds {condition looser : Condition} {context : Context} {now : Instant}
    (loosens : condition.Loosens looser)
    (held : condition.holds context now = true) :
    looser.holds context now = true := by
  cases loosens with
  | planIn enlarged => exact any_mono (fun _ => contains_mono enlarged) held
  | countryIn enlarged => exact any_mono (fun _ => containsIgnoringCase_mono enlarged) held
  | emailDomainIn enlarged => exact any_mono (fun _ => containsIgnoringCase_mono enlarged) held
  | tenantTagIn enlarged =>
      refine any_mono (fun owned some => ?_) held
      obtain ⟨tag, isOwned, contained⟩ := List.any_eq_true.mp some
      exact List.any_eq_true.mpr ⟨tag, isOwned, containsIgnoringCase_mono enlarged contained⟩
  | timeWindow opensEarlier closesLater => exact inWindow_mono opensEarlier closesLater held
  | percentage raised => exact inRollout_mono (UInt8.le_iff_toNat_le.mp raised) held

end Condition

/-! ## Rules -/

namespace Rule

/-- One condition of the rule was loosened or dropped. -/
inductive Relaxes : Rule → Rule → Prop where
  | loosen {before after : List Condition} {condition looser : Condition} {value : Bool}
      (loosens : condition.Loosens looser) :
      Relaxes ⟨before ++ condition :: after, value⟩ ⟨before ++ looser :: after, value⟩
  | drop {before after : List Condition} {condition : Condition} {value : Bool} :
      Relaxes ⟨before ++ condition :: after, value⟩ ⟨before ++ after, value⟩

variable {rule edited : Rule} {context : Context} {now : Instant}

/-- A relaxed rule gives the value that it gave. -/
theorem Relaxes.value_eq (relaxes : rule.Relaxes edited) : edited.value = rule.value := by
  cases relaxes with
  | loosen loosens => rfl
  | drop => rfl

/-- A relaxed rule holds where it held. -/
theorem Relaxes.holds (relaxes : rule.Relaxes edited) (held : rule.holds context now = true) :
    edited.holds context now = true := by
  cases relaxes with
  | loosen loosens =>
      simp only [Rule.holds, List.all_append, List.all_cons, Bool.and_eq_true] at held ⊢
      exact ⟨held.1, loosens.holds held.2.1, held.2.2⟩
  | drop =>
      simp only [Rule.holds, List.all_append, List.all_cons, Bool.and_eq_true] at held ⊢
      exact ⟨held.1, held.2.2⟩

/-- To relax a rule that gives true favours true. -/
theorem Relaxes.favours (relaxes : rule.Relaxes edited) (enables : rule.value = true) :
    Rule.Favours context now rule edited where
  value := relaxes.value_eq
  enabling _ := relaxes.holds
  disabling disables := by rw [enables] at disables; cases disables

/-- To undo this in a rule that gives false favours true. -/
theorem Relaxes.favours_undone (relaxes : edited.Relaxes rule) (disables : rule.value = false) :
    Rule.Favours context now rule edited where
  value := relaxes.value_eq.symm
  enabling enables := by rw [disables] at enables; cases enables
  disabling _ := relaxes.holds

end Rule

/-! ## Flags -/

namespace Flag

/--
An edit in favour of a flag.  What a write changes besides the rules and the default, such as
the version, is left open.
-/
inductive EditInFavour (flag edited : Flag) : Prop where
  | relax {before after : List Rule} {rule relaxed : Rule}
      (enables : rule.value = true)
      (relaxes : rule.Relaxes relaxed)
      (was : flag.rules = before ++ rule :: after)
      (rules : edited.rules = before ++ relaxed :: after)
      (default : edited.enabledDefault = flag.enabledDefault)
  | restrict {before after : List Rule} {rule restricted : Rule}
      (disables : rule.value = false)
      (restricts : restricted.Relaxes rule)
      (was : flag.rules = before ++ rule :: after)
      (rules : edited.rules = before ++ restricted :: after)
      (default : edited.enabledDefault = flag.enabledDefault)
  | enable
      (rules : edited.rules = flag.rules)
      (default : edited.enabledDefault = true)

section Edits

variable {flag edited : Flag} {context : Context} {now : Instant}

private theorem forall₂_replace {related : Rule → Rule → Prop} (refl : ∀ rule, related rule rule)
    (before after : List Rule)
    {rule edited : Rule}
    (here : related rule edited) :
    List.Forall₂ related (before ++ rule :: after) (before ++ edited :: after) :=
  have same (rules : List Rule) : List.Forall₂ related rules rules :=
    List.forall₂_same.mpr fun rule _ => refl rule
  List.rel_append (same before) (.cons here (same after))

/-- One edit in favour of a flag leaves it on where it is on. -/
theorem EditInFavour.on (edit : flag.EditInFavour edited)
    (on : (flag.resolve context now).value = true) :
    (edited.resolve context now).value = true := by
  cases edit with
  | relax enables relaxes was rules default =>
      refine on_of_favours ?_ (fun raised => default.trans raised) on
      rw [was, rules]
      exact forall₂_replace Rule.Favours.refl _ _ (relaxes.favours enables)
  | restrict disables restricts was rules default =>
      refine on_of_favours ?_ (fun raised => default.trans raised) on
      rw [was, rules]
      exact forall₂_replace Rule.Favours.refl _ _ (restricts.favours_undone disables)
  | enable rules default =>
      refine on_of_favours ?_ (fun _ => default) on
      rw [rules]
      exact List.forall₂_same.mpr fun rule _ => .refl rule

/-- Edits in favour of a flag leave it on where it is on. -/
theorem on_of_edits (edits : Relation.ReflTransGen EditInFavour flag edited)
    (on : (flag.resolve context now).value = true) :
    (edited.resolve context now).value = true := by
  induction edits with
  | refl => exact on
  | tail _ edit inductionHypothesis => exact edit.on inductionHypothesis

/-- The flag with another percentage at one place of a rule that gives true. -/
def withPercentage (flag : Flag) (before after : List Rule) (first last : List Condition)
    (threshold : UInt8) : Flag :=
  { flag with
    rules := before ++ ⟨first ++ .percentage threshold :: last, true⟩ :: after }

/-- To raise the percentage of a rule that gives true is an edit in favour of the flag. -/
theorem editInFavour_withPercentage (flag : Flag) (before after : List Rule)
    (first last : List Condition)
    {lower higher : UInt8}
    (raised : lower ≤ higher) :
    (flag.withPercentage before after first last lower).EditInFavour
      (flag.withPercentage before after first last higher) :=
  .relax rfl (.loosen (.percentage raised)) rfl rfl rfl

/-- Two percentages that both take a bucket in, or both leave it out, resolve the flag alike. -/
theorem resolve_withPercentage_congr (flag : Flag) (before after : List Rule)
    (first last : List Condition)
    {lower higher : UInt8}
    (alike : bucketOf context.subject < lower.toNat ↔ bucketOf context.subject < higher.toNat) :
    (flag.withPercentage before after first last lower).resolve context now =
      (flag.withPercentage before after first last higher).resolve context now := by
  have holds : Condition.holds (.percentage lower) context now =
      Condition.holds (.percentage higher) context now :=
    decide_eq_decide.mpr alike
  refine resolve_congr (forall₂_replace (fun _ => ⟨rfl, rfl⟩) before after ⟨rfl, ?_⟩) rfl
  simp only [Rule.holds, List.all_append, List.all_cons, holds]

end Edits

/--
A flag that is on for a context with an instant stays on through any number of edits in its
favour, whatever else changes and whatever the clock shows.  In particular, to raise the
percentage of a rule that gives true, wherever the rule stands and whatever the others are,
switches nobody off, and it changes the answer or its reason only for those whose bucket lies
between the two percentages.
-/
theorem stays_on_through_edits (flag : Flag)
    {context : Context}
    {now : Instant}
    (pinned : context.now = some now)
    (clock later : Instant) :
    (∀ edited, Relation.ReflTransGen EditInFavour flag edited →
      (resolveFlag (some flag) context clock).value = true →
        (resolveFlag (some edited) context later).value = true) ∧
      ∀ before after first last lower higher, lower ≤ higher →
        let resolution threshold clock :=
          resolveFlag (some (flag.withPercentage before after first last threshold)) context clock
        ((resolution lower clock).value = true → (resolution higher later).value = true) ∧
          (resolution lower clock ≠ resolution higher later →
            lower.toNat ≤ bucketOf context.subject ∧
              bucketOf context.subject < higher.toNat) := by
  simp only [resolveFlag_of_now pinned _ clock, resolveFlag_of_now pinned _ later]
  refine ⟨fun edited edits on => on_of_edits edits on, ?_⟩
  intro before after first last lower higher raised
  refine ⟨(flag.editInFavour_withPercentage before after first last raised).on, fun differ => ?_⟩
  have ordered := UInt8.le_iff_toNat_le.mp raised
  by_contra outside
  exact differ (flag.resolve_withPercentage_congr before after first last (by omega))

namespace Rollout

/-- The instant of all contexts. -/
def now : Instant :=
  .startOf ⟨2024, 9, 2, by decide⟩

/-- Those who pay. -/
def pro : Condition :=
  .ofPlans ["pro"]

/-- Those in one country. -/
def americans : Condition :=
  .ofCountries ["US"]

/-- Off in one country, on for half of those who pay. -/
def flag : Flag where
  environment := "prod"
  key := "beta.search"
  enabledDefault := false
  rules := [⟨[americans], false⟩, ⟨[.percentage 50, pro], true⟩]
  version := 4
  lastEditorId := none
  createdAt := now
  updatedAt := now

/-- In one country, off for those who do not pay. -/
def restricted : Rule :=
  ⟨[americans, .ofPlans ["free"]], false⟩

/-- The flag after the country was left to those who do not pay. -/
def between : Flag :=
  { flag with
    rules := [restricted, ⟨[.percentage 50, pro], true⟩]
    version := 5 }

/-- The flag after the country was left to those who do not pay, and the plan was dropped. -/
def edited : Flag :=
  { flag with
    rules := [restricted, ⟨[.percentage 50], true⟩]
    version := 6 }

/-- A user in the country who pays. -/
def context (user : String) : Context where
  userId := some user
  country := some "De"
  plan := some "pro"
  now := some now

theorem edits : Relation.ReflTransGen EditInFavour flag edited := by
  have restricts : restricted.Relaxes ⟨[americans], false⟩ :=
    @Rule.Relaxes.drop [americans] [] (.ofPlans ["free"]) false
  have relaxes : Rule.Relaxes ⟨[.percentage 50, pro], true⟩ ⟨[.percentage 50], true⟩ :=
    @Rule.Relaxes.drop [.percentage 50] [] pro true
  have first : flag.EditInFavour between :=
    @EditInFavour.restrict _ _ [] _ _ _ rfl restricts rfl rfl rfl
  have second : between.EditInFavour edited :=
    @EditInFavour.relax _ _ [restricted] _ _ _ rfl relaxes rfl rfl rfl
  exact (Relation.ReflTransGen.single first).tail second

end Rollout

open Rollout in
/-- One user keeps the flag, and another gets it when half of the users become sixty percent. -/
theorem stays_on_through_edits_rollout :
    (context "user2").now = some now ∧ (context "user4").now = some now ∧
      Relation.ReflTransGen EditInFavour flag edited ∧
        (resolveFlag (some flag) (context "user2") now).value = true ∧
          (resolveFlag (some edited) (context "user2") now).value = true ∧
            50 ≤ bucketOf (context "user4").subject ∧ bucketOf (context "user4").subject < 60 := by
  have on : (resolveFlag (some flag) (context "user2") now).value = true := by decide +kernel
  have pinned (user : String) : (context user).now = some now := rfl
  have kept := (flag.stays_on_through_edits (pinned "user2") now now).1
  have raised := (flag.stays_on_through_edits (pinned "user4") now now).2
    [⟨[americans], false⟩] [] [] [pro] 50 60 (by decide)
  have bucket := raised.2 (by decide +kernel)
  exact ⟨rfl, rfl, edits, on, kept edited edits on, bucket⟩

end Flag

end Switchboard
