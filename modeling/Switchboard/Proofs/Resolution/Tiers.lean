import Switchboard.Proofs.Resolution.FirstRule
import Switchboard.Resolver

namespace Switchboard

/-!
# The three tiers

What a resolution has to be, told by the outcomes of three reads and nothing else: one
rule for each tier that may decide and for each error that may stop.  The rules name no
tier below the one that decides, they leave no choice, and one of them always applies.
-/

/-- The outcome of the read of an override. -/
abbrev OverrideRead : Type :=
  Except ServiceError (Option OverrideValue)

/--
The outcomes of the reads of the tiers.  A tier of overrides is not read where nobody is
known.
-/
structure TierReads where
  user : Option OverrideRead
  tenant : Option OverrideRead
  flag : Except ServiceError (Option Flag)

namespace FailurePolicy

/-- Whether an override that cannot be read for this cause counts as absent. -/
def Excuses (policy : FailurePolicy) (error : ServiceError) : Prop :=
  policy = .treatAsAbsent ∧ error.isInfrastructure = true

instance (policy : FailurePolicy) (error : ServiceError) : Decidable (policy.Excuses error) :=
  inferInstanceAs (Decidable (_ ∧ _))

/-- Whether a tier of overrides leaves the decision to the tiers below it. -/
def Passes (policy : FailurePolicy) : Option OverrideRead → Prop
  | none => True
  | some (.ok found) => found = none
  | some (.error error) => policy.Excuses error

end FailurePolicy

/-- The result of a resolution, as the outcomes of the reads determine it. -/
inductive Decided
    (policy : FailurePolicy)
    (context : Context)
    (now : Instant)
    (reads : TierReads) : Except ServiceError Resolution → Prop
  | user {found : OverrideValue}
      (read : reads.user = some (.ok (some found))) :
      Decided policy context now reads (.ok ⟨found.value, .userOverride⟩)
  | userFailed {error : ServiceError}
      (read : reads.user = some (.error error))
      (stops : ¬policy.Excuses error) :
      Decided policy context now reads (.error error)
  | tenant {found : OverrideValue}
      (userPasses : policy.Passes reads.user)
      (read : reads.tenant = some (.ok (some found))) :
      Decided policy context now reads (.ok ⟨found.value, .tenantOverride⟩)
  | tenantFailed {error : ServiceError}
      (userPasses : policy.Passes reads.user)
      (read : reads.tenant = some (.error error))
      (stops : ¬policy.Excuses error) :
      Decided policy context now reads (.error error)
  | flagFailed {error : ServiceError}
      (userPasses : policy.Passes reads.user)
      (tenantPasses : policy.Passes reads.tenant)
      (read : reads.flag = .error error) :
      Decided policy context now reads (.error error)
  | rule {flag : Flag} {index : Nat} {rule : Rule}
      (userPasses : policy.Passes reads.user)
      (tenantPasses : policy.Passes reads.tenant)
      (read : reads.flag = .ok (some flag))
      (first : IsFirstMatch flag.rules context now index rule) :
      Decided policy context now reads (.ok ⟨rule.value, .ruleMatch index⟩)
  | default {flag : Flag}
      (userPasses : policy.Passes reads.user)
      (tenantPasses : policy.Passes reads.tenant)
      (read : reads.flag = .ok (some flag))
      (noneHolds : ∀ rule ∈ flag.rules,
        ∃ condition ∈ rule.conditions, condition.holds context now = false) :
      Decided policy context now reads (.ok ⟨flag.enabledDefault, .default⟩)
  | flagNotFound
      (userPasses : policy.Passes reads.user)
      (tenantPasses : policy.Passes reads.tenant)
      (read : reads.flag = .ok none) :
      Decided policy context now reads (.ok ⟨false, .flagNotFound⟩)

namespace FailurePolicy

variable {policy : FailurePolicy}

/-- What a resolver makes of the outcome of the read of an override. -/
def judge (policy : FailurePolicy) (read : OverrideRead) : OverrideRead :=
  match read with
  | .ok found => .ok found
  | .error error => if policy.Excuses error then .ok none else .error error

/-- A tier of overrides where nobody is known counts as absent. -/
def judgeTier (policy : FailurePolicy) : Option OverrideRead → OverrideRead
  | none => .ok none
  | some read => policy.judge read

/-- A tier passes exactly when it is taken for absent. -/
theorem passes_iff {read : Option OverrideRead} :
    policy.Passes read ↔ policy.judgeTier read = .ok none := by
  cases read with
  | none => simp [Passes, judgeTier]
  | some read =>
      cases read with
      | ok found => simp [Passes, judgeTier, judge]
      | error error => simp [Passes, judgeTier, judge]

/-- A tier decides exactly when an override was read. -/
theorem judgeTier_eq_some_iff {read : Option OverrideRead} {found : OverrideValue} :
    policy.judgeTier read = .ok (some found) ↔ read = some (.ok (some found)) := by
  cases read with
  | none => simp [judgeTier]
  | some read =>
      cases read with
      | ok found => simp [judgeTier, judge]
      | error error =>
          by_cases excused : policy.Excuses error
          · simp [judgeTier, judge, excused]
          · simp [judgeTier, judge, excused]

/-- A tier stops exactly for an error that the policy does not excuse. -/
theorem judgeTier_eq_error_iff {read : Option OverrideRead} {error : ServiceError} :
    policy.judgeTier read = .error error ↔
      read = some (.error error) ∧ ¬policy.Excuses error := by
  cases read with
  | none => simp [judgeTier]
  | some read =>
      cases read with
      | ok found => simp [judgeTier, judge]
      | error cause =>
          by_cases excused : policy.Excuses cause
          · simp only [judgeTier, judge, excused, if_true]
            refine ⟨fun absent => by simp at absent, ?_⟩
            rintro ⟨⟨⟩, stops⟩
            exact absurd excused stops
          · simp only [judgeTier, judge, excused, if_false, Except.error.injEq, Option.some.injEq]
            refine ⟨fun same => ⟨same, same ▸ excused⟩, fun stopped => stopped.1⟩

end FailurePolicy

/-- What the outcomes of the reads come to, tier by tier. -/
def TierReads.outcome
    (reads : TierReads)
    (policy : FailurePolicy)
    (context : Context)
    (now : Instant) :
    Except ServiceError Resolution :=
  match policy.judgeTier reads.user with
  | .error error => .error error
  | .ok (some found) => .ok ⟨found.value, .userOverride⟩
  | .ok none =>
      match policy.judgeTier reads.tenant with
      | .error error => .error error
      | .ok (some found) => .ok ⟨found.value, .tenantOverride⟩
      | .ok none => reads.flag.map fun flag? => resolveFlag flag? context now

namespace Decided

variable {policy : FailurePolicy} {context : Context} {now : Instant} {reads : TierReads}
variable {outcome : Except ServiceError Resolution}

/-- The rules leave no choice. -/
theorem eq_outcome (decided : Decided policy context now reads outcome) :
    reads.outcome policy context now = outcome := by
  unfold TierReads.outcome
  cases decided with
  | user read => rw [FailurePolicy.judgeTier_eq_some_iff.mpr read]
  | userFailed read stops => rw [FailurePolicy.judgeTier_eq_error_iff.mpr ⟨read, stops⟩]
  | tenant userPasses read =>
      rw [FailurePolicy.passes_iff.mp userPasses, FailurePolicy.judgeTier_eq_some_iff.mpr read]
  | tenantFailed userPasses read stops =>
      rw [FailurePolicy.passes_iff.mp userPasses,
        FailurePolicy.judgeTier_eq_error_iff.mpr ⟨read, stops⟩]
  | flagFailed userPasses tenantPasses read =>
      rw [FailurePolicy.passes_iff.mp userPasses, FailurePolicy.passes_iff.mp tenantPasses, read]
      rfl
  | rule userPasses tenantPasses read first =>
      rw [FailurePolicy.passes_iff.mp userPasses, FailurePolicy.passes_iff.mp tenantPasses, read]
      simp only [Except.map, resolveFlag, Flag.resolve, firstMatch_eq_some_iff.mpr first]
  | default userPasses tenantPasses read noneHolds =>
      rw [FailurePolicy.passes_iff.mp userPasses, FailurePolicy.passes_iff.mp tenantPasses, read]
      simp only [Except.map, resolveFlag, Flag.resolve, firstMatch_eq_none_iff.mpr noneHolds]
  | flagNotFound userPasses tenantPasses read =>
      rw [FailurePolicy.passes_iff.mp userPasses, FailurePolicy.passes_iff.mp tenantPasses, read]
      rfl

/-- Where both tiers of overrides pass, some rule for the flag applies. -/
private theorem of_flag
    (userPasses : policy.Passes reads.user)
    (tenantPasses : policy.Passes reads.tenant) :
    Decided policy context now reads
      (reads.flag.map fun flag? => resolveFlag flag? context now) := by
  cases read : reads.flag with
  | error error => exact .flagFailed userPasses tenantPasses read
  | ok flag? =>
      cases flag? with
      | none => exact .flagNotFound userPasses tenantPasses read
      | some flag =>
          change Decided policy context now reads (.ok (flag.resolve context now))
          unfold Flag.resolve
          cases search : firstMatch? 0 context now flag.rules with
          | none => exact .default userPasses tenantPasses read (firstMatch_eq_none_iff.mp search)
          | some found =>
              exact .rule userPasses tenantPasses read (firstMatch_eq_some_iff.mp search)

/-- Some rule applies to all reads. -/
theorem decided_outcome (policy : FailurePolicy) (context : Context) (now : Instant)
    (reads : TierReads) :
    Decided policy context now reads (reads.outcome policy context now) := by
  unfold TierReads.outcome
  cases userRead : policy.judgeTier reads.user with
  | error error =>
      obtain ⟨read, stops⟩ := FailurePolicy.judgeTier_eq_error_iff.mp userRead
      exact .userFailed read stops
  | ok found =>
      cases found with
      | some found => exact .user (FailurePolicy.judgeTier_eq_some_iff.mp userRead)
      | none =>
          have userPasses := FailurePolicy.passes_iff.mpr userRead
          cases tenantRead : policy.judgeTier reads.tenant with
          | error error =>
              obtain ⟨read, stops⟩ := FailurePolicy.judgeTier_eq_error_iff.mp tenantRead
              exact .tenantFailed userPasses read stops
          | ok found =>
              cases found with
              | some found =>
                  exact .tenant userPasses (FailurePolicy.judgeTier_eq_some_iff.mp tenantRead)
              | none => exact of_flag userPasses (FailurePolicy.passes_iff.mpr tenantRead)

/-- What is decided when the tier of users does not pass depends on no other tier. -/
theorem of_user
    (decided : Decided policy context now reads outcome)
    (decides : ¬policy.Passes reads.user)
    (tenant : Option OverrideRead)
    (flag : Except ServiceError (Option Flag)) :
    Decided policy context now ⟨reads.user, tenant, flag⟩ outcome := by
  cases decided with
  | user read => exact .user read
  | userFailed read stops => exact .userFailed read stops
  | tenant userPasses => exact absurd userPasses decides
  | tenantFailed userPasses => exact absurd userPasses decides
  | flagFailed userPasses => exact absurd userPasses decides
  | rule userPasses => exact absurd userPasses decides
  | default userPasses => exact absurd userPasses decides
  | flagNotFound userPasses => exact absurd userPasses decides

/-- What is decided when the tier of tenants does not pass does not depend on the flag. -/
theorem of_tenant
    (decided : Decided policy context now reads outcome)
    (decides : ¬policy.Passes reads.tenant)
    (flag : Except ServiceError (Option Flag)) :
    Decided policy context now ⟨reads.user, reads.tenant, flag⟩ outcome := by
  cases decided with
  | user read => exact .user read
  | userFailed read stops => exact .userFailed read stops
  | tenant userPasses read => exact .tenant userPasses read
  | tenantFailed userPasses read stops => exact .tenantFailed userPasses read stops
  | flagFailed _ tenantPasses => exact absurd tenantPasses decides
  | rule _ tenantPasses => exact absurd tenantPasses decides
  | default _ tenantPasses => exact absurd tenantPasses decides
  | flagNotFound _ tenantPasses => exact absurd tenantPasses decides

end Decided

end Switchboard
