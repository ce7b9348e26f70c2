import Switchboard.Targeting.Resolution

namespace Switchboard

/-!
# The rule that decides

Rules are tried in their order, and the search stops at the first whose conditions all
hold.  Here the result of the search is told by the list of rules alone: by an index, by
what holds there and by what fails before it.
-/

/-- The conditions of a rule are tested one by one. -/
theorem Rule.holds_iff {rule : Rule} {context : Context} {clock : Instant} :
    rule.holds context clock = true ↔
      ∀ condition ∈ rule.conditions, condition.holds context clock = true :=
  List.all_eq_true

/-- A rule does not hold as soon as one of its conditions fails. -/
theorem Rule.holds_eq_false_iff {rule : Rule} {context : Context} {clock : Instant} :
    rule.holds context clock = false ↔
      ∃ condition ∈ rule.conditions, condition.holds context clock = false := by
  simp [Rule.holds, List.all_eq_false]

section Pinned

variable (context : Context) (clock later : Instant)

/-- A pinned context is tested at the instant at which it was pinned. -/
theorem Condition.holds_pinned (condition : Condition) :
    condition.holds (context.pinned clock) later = condition.holds context clock := by
  cases condition with
  | timeWindow opens closes => rfl
  | planIn plans => rfl
  | countryIn countries => rfl
  | emailDomainIn domains => rfl
  | tenantTagIn tags => rfl
  | percentage threshold => rfl

/-- A rule is tested at the instant at which the context was pinned. -/
theorem Rule.holds_pinned (rule : Rule) :
    rule.holds (context.pinned clock) later = rule.holds context clock := by
  unfold Rule.holds
  simp only [Condition.holds_pinned]

/-- The search looks at no other instant than the one of the pinned context. -/
theorem firstMatch_pinned (index : Nat) (rules : List Rule) :
    firstMatch? index (context.pinned clock) later rules =
      firstMatch? index context clock rules := by
  induction rules generalizing index with
  | nil => rfl
  | cons rule rest inductionHypothesis =>
      simp only [firstMatch?, Rule.holds_pinned, inductionHypothesis]

/-- A resolution looks at no other instant than the one of the pinned context. -/
theorem resolveFlag_pinned (flag? : Option Flag) :
    resolveFlag flag? (context.pinned clock) later = resolveFlag flag? context clock := by
  cases flag? with
  | none => rfl
  | some flag => simp only [resolveFlag, Flag.resolve, firstMatch_pinned]

end Pinned

/-- Two clocks at which an evaluation has the same instant give the same resolution. -/
theorem resolveFlag_of_instantAt {context : Context} {clock later : Instant}
    (same : context.instantAt clock = context.instantAt later)
    (flag? : Option Flag) :
    resolveFlag flag? context clock = resolveFlag flag? context later := by
  rw [← resolveFlag_pinned context clock clock, ← resolveFlag_pinned context later clock]
  unfold Context.pinned
  rw [same]

/-- A resolution does not look at the clock when the context has an instant. -/
theorem resolveFlag_of_now {context : Context} {now : Instant}
    (pinned : context.now = some now)
    (flag? : Option Flag)
    (clock : Instant) :
    resolveFlag flag? context clock = resolveFlag flag? context now :=
  resolveFlag_of_instantAt (by simp only [Context.instantAt, pinned, Option.getD_some]) flag?

/--
The rule stands at the index and all its conditions hold, and each rule before it has a
condition that fails.
-/
structure IsFirstMatch
    (rules : List Rule)
    (context : Context)
    (now : Instant)
    (index : Nat)
    (rule : Rule) : Prop where
  stands : rules[index]? = some rule
  holds : ∀ condition ∈ rule.conditions, condition.holds context now = true
  least : ∀ earlier < index, ∀ passed, rules[earlier]? = some passed →
    ∃ condition ∈ passed.conditions, condition.holds context now = false

namespace IsFirstMatch

variable {rules rest : List Rule} {context : Context} {now : Instant}

/-- No rule that holds stands before a first match. -/
theorem le_of_holds {first other : Nat} {rule passed : Rule}
    (isFirst : IsFirstMatch rules context now first rule)
    (standing : rules[other]? = some passed)
    (holds : ∀ condition ∈ passed.conditions, condition.holds context now = true) :
    first ≤ other := by
  refine Nat.le_of_not_lt fun before => ?_
  obtain ⟨condition, member, fails⟩ := isFirst.least other before passed standing
  rw [holds condition member] at fails
  exact absurd fails (by decide)

/-- There is at most one first match. -/
theorem unique {first other : Nat} {rule passed : Rule}
    (here : IsFirstMatch rules context now first rule)
    (there : IsFirstMatch rules context now other passed) :
    first = other ∧ rule = passed := by
  obtain rfl : first = other :=
    Nat.le_antisymm (here.le_of_holds there.stands there.holds)
      (there.le_of_holds here.stands here.holds)
  exact ⟨rfl, Option.some.inj (here.stands.symm.trans there.stands)⟩

/-- A head that holds is the first match. -/
theorem of_head {rule : Rule} (holds : rule.holds context now = true) :
    IsFirstMatch (rule :: rest) context now 0 rule where
  stands := rfl
  holds := Rule.holds_iff.mp holds
  least := fun earlier before => absurd before (Nat.not_lt_zero earlier)

/-- Behind a head that fails, the first match of the rest comes one place later. -/
theorem cons {failed rule : Rule} {index : Nat}
    (fails : failed.holds context now = false)
    (first : IsFirstMatch rest context now index rule) :
    IsFirstMatch (failed :: rest) context now (index + 1) rule where
  stands := by simpa using first.stands
  holds := first.holds
  least := by
    intro earlier before passed standing
    cases earlier with
    | zero =>
        obtain rfl : failed = passed := by simpa using standing
        exact Rule.holds_eq_false_iff.mp fails
    | succ earlier =>
        exact first.least earlier (Nat.lt_of_succ_lt_succ before) passed (by simpa using standing)

end IsFirstMatch

section Search

variable {rules : List Rule} {context : Context} {now : Instant}

/-- What the search finds is the first match, its index counted from where the search began. -/
theorem isFirstMatch_of_firstMatch {base found : Nat} {rule : Rule}
    (search : firstMatch? base context now rules = some (found, rule)) :
    ∃ index, found = base + index ∧ IsFirstMatch rules context now index rule := by
  induction rules generalizing base with
  | nil => simp [firstMatch?] at search
  | cons head rest inductionHypothesis =>
      cases tested : head.holds context now with
      | true =>
          simp only [firstMatch?, tested, if_true, Option.some.injEq, Prod.mk.injEq] at search
          obtain ⟨rfl, rfl⟩ := search
          exact ⟨0, rfl, .of_head tested⟩
      | false =>
          simp only [firstMatch?, tested, Bool.false_eq_true, if_false] at search
          obtain ⟨index, rfl, first⟩ := inductionHypothesis search
          exact ⟨index + 1, by omega, first.cons tested⟩

/-- The search finds nothing exactly when every rule has a condition that fails. -/
theorem firstMatch_eq_none_iff {base : Nat} :
    firstMatch? base context now rules = none ↔
      ∀ rule ∈ rules, ∃ condition ∈ rule.conditions, condition.holds context now = false := by
  induction rules generalizing base with
  | nil => simp [firstMatch?]
  | cons head rest inductionHypothesis =>
      have searchOn := @inductionHypothesis (base + 1)
      rw [List.forall_mem_cons, ← Rule.holds_eq_false_iff, ← searchOn]
      cases tested : head.holds context now with
      | true => simp [firstMatch?, tested]
      | false => simp [firstMatch?, tested]

/-- The search finds the first match and its index. -/
theorem firstMatch_eq_some_iff {index : Nat} {rule : Rule} :
    firstMatch? 0 context now rules = some (index, rule) ↔
      IsFirstMatch rules context now index rule := by
  constructor
  · intro search
    obtain ⟨found, rfl, first⟩ := isFirstMatch_of_firstMatch search
    rwa [Nat.zero_add]
  · intro first
    cases search : firstMatch? 0 context now rules with
    | none =>
        have member : rule ∈ rules := List.mem_of_getElem? first.stands
        obtain ⟨condition, tested, fails⟩ := firstMatch_eq_none_iff.mp search rule member
        rw [first.holds condition tested] at fails
        exact absurd fails (by decide)
    | some result =>
        obtain ⟨found, same, other⟩ := isFirstMatch_of_firstMatch search
        obtain ⟨rfl, ruleSame⟩ := first.unique other
        rw [Nat.zero_add] at same
        rw [← same, ruleSame]

end Search

end Switchboard
