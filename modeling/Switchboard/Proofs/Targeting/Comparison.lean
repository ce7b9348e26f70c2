import Mathlib.Data.List.Forall2
import Switchboard.Proofs.Resolution.FirstRule

namespace Switchboard

/-!
# Two searches side by side

Two lists of rules are searched in step, each for a context and at a clock of its own.  Rules
that hold alike, place by place, make both searches end alike.  Rules of which the enabling ones
hold no less and the disabling ones no more make the second search end with true wherever the
first does, although they may make it end at an earlier place.
-/

section Alike

variable {first second : Context} {clock later : Instant}

/-- Two rules give one value and hold alike, each for its context. -/
structure Rule.HoldsLike
    (first second : Context)
    (clock later : Instant)
    (rule twin : Rule) : Prop where
  value : rule.value = twin.value
  holds : rule.holds first clock = twin.holds second later

/-- A search looks only at whether rules hold. -/
private theorem firstMatch_congr {rules twins : List Rule}
    (alike : List.Forall₂ (Rule.HoldsLike first second clock later) rules twins)
    (index : Nat) :
    (firstMatch? index first clock rules).map (fun found => (found.1, found.2.value)) =
      (firstMatch? index second later twins).map (fun found => (found.1, found.2.value)) := by
  induction alike generalizing index with
  | nil => rfl
  | @cons rule twin rest restTwins here there inductionHypothesis =>
      simp only [firstMatch?, here.holds]
      cases twin.holds second later with
      | true => simp [here.value]
      | false => simpa using inductionHypothesis (index + 1)

/-- Flags whose rules hold alike are resolved alike, with the same reason. -/
theorem Flag.resolve_congr {flag other : Flag}
    (alike : List.Forall₂ (Rule.HoldsLike first second clock later) flag.rules other.rules)
    (default : flag.enabledDefault = other.enabledDefault) :
    flag.resolve first clock = other.resolve second later := by
  have searched := firstMatch_congr alike 0
  unfold Flag.resolve
  cases found : firstMatch? 0 first clock flag.rules with
  | none =>
      rw [found, Option.map_none] at searched
      rw [Option.map_eq_none_iff.mp searched.symm, default]
  | some result =>
      rw [found, Option.map_some] at searched
      obtain ⟨twin, foundTwin, same⟩ := Option.map_eq_some_iff.mp searched.symm
      obtain ⟨sameIndex, sameValue⟩ := Prod.mk.inj same
      simp only [foundTwin, sameIndex, sameValue]

end Alike

section InFavour

variable {context : Context} {now : Instant}

/--
A rule and what became of it: where it gives true it holds no less than before, and where it
gives false it holds no more.
-/
structure Rule.Favours (context : Context) (now : Instant) (rule edited : Rule) : Prop where
  value : edited.value = rule.value
  enabling : rule.value = true → rule.holds context now = true → edited.holds context now = true
  disabling : rule.value = false → edited.holds context now = true → rule.holds context now = true

/-- A rule favours itself. -/
theorem Rule.Favours.refl (rule : Rule) : Rule.Favours context now rule rule where
  value := rfl
  enabling _ holds := holds
  disabling _ holds := holds

/-- The value of the first rule that holds, the given one where none does. -/
private def searchedValue (context : Context) (now : Instant) (fallback : Bool) :
    List Rule → Bool
  | [] => fallback
  | rule :: rest =>
      if rule.holds context now then rule.value else searchedValue context now fallback rest

private theorem searchedValue_eq (fallback : Bool) (rules : List Rule) (index : Nat) :
    (firstMatch? index context now rules).elim fallback (fun found => found.2.value) =
      searchedValue context now fallback rules := by
  induction rules generalizing index with
  | nil => rfl
  | cons rule rest inductionHypothesis =>
      rw [firstMatch?, searchedValue]
      split
      · rfl
      · exact inductionHypothesis (index + 1)

private theorem value_resolve (flag : Flag) :
    (flag.resolve context now).value =
      searchedValue context now flag.enabledDefault flag.rules := by
  rw [← searchedValue_eq flag.enabledDefault flag.rules 0]
  unfold Flag.resolve
  cases firstMatch? 0 context now flag.rules with
  | none => rfl
  | some found => rfl

/--
A search that ends with true does so after edits in favour of true: where a rule does not hold
after them it did not hold before, so both searches go on.
-/
private theorem searchedValue_of_favours {rules edited : List Rule} {fallback editedFallback : Bool}
    (favours : List.Forall₂ (Rule.Favours context now) rules edited)
    (raised : fallback = true → editedFallback = true)
    (on : searchedValue context now fallback rules = true) :
    searchedValue context now editedFallback edited = true := by
  induction favours with
  | nil => exact raised on
  | @cons rule editedRule rest editedRest here there inductionHypothesis =>
      rw [searchedValue] at on ⊢
      rw [here.value]
      cases value : rule.value with
      | true =>
          by_cases holdsNow : editedRule.holds context now = true
          · rw [if_pos holdsNow]
          · have failed : ¬rule.holds context now = true :=
              fun held => holdsNow (here.enabling value held)
            rw [if_neg failed] at on
            rw [if_neg holdsNow]
            exact inductionHypothesis on
      | false =>
          by_cases held : rule.holds context now = true
          · rw [if_pos held, value] at on
            cases on
          · have fails : ¬editedRule.holds context now = true :=
              fun holdsNow => held (here.disabling value holdsNow)
            rw [if_neg held] at on
            rw [if_neg fails]
            exact inductionHypothesis on

/-- A flag that is on stays on when its rules and its default change in favour of that. -/
theorem Flag.on_of_favours {flag edited : Flag}
    (favours : List.Forall₂ (Rule.Favours context now) flag.rules edited.rules)
    (raised : flag.enabledDefault = true → edited.enabledDefault = true)
    (on : (flag.resolve context now).value = true) :
    (edited.resolve context now).value = true := by
  rw [value_resolve] at on ⊢
  exact searchedValue_of_favours favours raised on

end InFavour

end Switchboard
