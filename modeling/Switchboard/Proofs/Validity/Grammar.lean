import Switchboard.Evaluator
import Switchboard.Override.Scope
import Switchboard.Proofs.Text.Bytes

namespace Switchboard

/-!
# What a request may say

The grammars of names and the bounds of conditions, stated without the checks, and the checks
shown to accept exactly those texts and those conditions.  Lengths of names may be counted in
characters or in bytes: a text that has more bytes than characters is no name.
-/

/-- The characters that `[a-z]` matches. -/
def InLetterClass (c : Char) : Prop :=
  'a' ≤ c ∧ c ≤ 'z'

/-- The characters that `[a-z0-9_]` matches. -/
def InNameClass (c : Char) : Prop :=
  InLetterClass c ∨ ('0' ≤ c ∧ c ≤ '9') ∨ c = '_'

/-- The characters that `[a-z0-9_.]` matches. -/
def InKeyClass (c : Char) : Prop :=
  InNameClass c ∨ c = '.'

/-- The texts that `^[a-z]C{least,most}$` matches, for a class `C` of characters. -/
inductive Matches (inClass : Char → Prop) (least most : Nat) : String → Prop where
  | intro {first : Char} {rest : List Char}
      (head : InLetterClass first)
      (tail : ∀ c ∈ rest, inClass c)
      (atLeast : least ≤ rest.length)
      (atMost : rest.length ≤ most) :
      Matches inClass least most (String.ofList (first :: rest))

/-- The environment names: `^[a-z][a-z0-9_]{1,49}$`. -/
abbrev IsEnvironmentName : String → Prop :=
  Matches InNameClass 1 49

/-- The flag keys: `^[a-z][a-z0-9_.]{2,99}$`. -/
abbrev IsKeyName : String → Prop :=
  Matches InKeyClass 2 99

/-! ## Names -/

theorem isSmallLetter_iff {c : Char} : isSmallLetter c = true ↔ InLetterClass c := by
  simp [isSmallLetter, InLetterClass]

theorem isNameChar_iff {c : Char} : isNameChar c = true ↔ InNameClass c := by
  simp only [isNameChar, InNameClass, Bool.or_eq_true, isSmallLetter_iff, beq_iff_eq, or_assoc]
  have digit : c.isDigit = true ↔ '0' ≤ c ∧ c ≤ '9' := by
    simp [Char.isDigit, Char.le_def]
  rw [digit]

theorem isKeyChar_iff {c : Char} : isKeyChar c = true ↔ InKeyClass c := by
  simp only [isKeyChar, InKeyClass, Bool.or_eq_true, isNameChar_iff, beq_iff_eq]

section Matching

variable {inClass : Char → Prop} {allowed : Char → Bool} {least most : Nat} {text : String}

/-- A text of some length that starts with a letter and goes on within a class matches. -/
private theorem matches_iff (decides : ∀ c, allowed c = true ↔ inClass c) :
    Matches inClass least most text ↔
      least + 1 ≤ text.toList.length ∧ text.toList.length ≤ most + 1 ∧
        isIdentifier allowed text.toList = true := by
  constructor
  · rintro ⟨head, tail, atLeast, atMost⟩
    simp only [String.toList_ofList, List.length_cons, isIdentifier, Bool.and_eq_true,
      isSmallLetter_iff, List.all_eq_true, decides]
    exact ⟨Nat.succ_le_succ atLeast, Nat.succ_le_succ atMost, head, tail⟩
  · rintro ⟨atLeast, atMost, identifier⟩
    rw [← String.ofList_toList (s := text)]
    cases characters : text.toList with
    | nil =>
        rw [characters] at identifier
        cases identifier
    | cons first rest =>
        rw [characters] at identifier atLeast atMost
        simp only [isIdentifier, Bool.and_eq_true, isSmallLetter_iff, List.all_eq_true, decides]
          at identifier
        exact ⟨identifier.1, identifier.2, Nat.le_of_succ_le_succ atLeast,
          Nat.le_of_succ_le_succ atMost⟩

end Matching

/-- The check accepts exactly the environment names. -/
theorem isEnvironment_iff {name : String} : isEnvironment name = true ↔ IsEnvironmentName name := by
  rw [IsEnvironmentName, matches_iff fun _ => isNameChar_iff]
  simp [isEnvironment, and_assoc]

/-- The check accepts exactly the flag keys. -/
theorem isFlagKey_iff {key : String} : isFlagKey key = true ↔ IsKeyName key := by
  rw [IsKeyName, matches_iff fun _ => isKeyChar_iff]
  simp [isFlagKey, and_assoc]

/-! ## Lengths in bytes -/

private theorem toNat_lt_of_inKeyClass {c : Char} (inClass : InKeyClass c) : c.toNat < 128 := by
  have small : c ≤ 'z' := by
    rcases inClass with (letter | digit | rfl) | rfl
    · exact letter.2
    · exact Char.le_trans digit.2 (by decide)
    · decide
    · decide
  exact Nat.lt_of_le_of_lt small (by decide)

/-- Names have one byte for each character. -/
theorem utf8ByteSize_of_isIdentifier {allowed : Char → Bool} {text : String}
    (decides : ∀ c, allowed c = true → InKeyClass c)
    (identifier : isIdentifier allowed text.toList = true) :
    text.utf8ByteSize = text.toList.length := by
  apply Text.utf8ByteSize_of_isAscii
  cases characters : text.toList with
  | nil => exact Text.isAscii_nil
  | cons first rest =>
      simp only [characters, isIdentifier, Bool.and_eq_true, isSmallLetter_iff,
        List.all_eq_true] at identifier
      rw [Text.isAscii_cons]
      exact ⟨toNat_lt_of_inKeyClass (.inl (.inl identifier.1)), fun c member =>
        toNat_lt_of_inKeyClass (decides c (identifier.2 c member))⟩

/-- An environment name may be measured in bytes. -/
theorem isEnvironment_eq_bytes (name : String) :
    isEnvironment name =
      (2 ≤ name.utf8ByteSize && name.utf8ByteSize ≤ 50 &&
        isIdentifier isNameChar name.toList) := by
  unfold isEnvironment
  cases identifier : isIdentifier isNameChar name.toList with
  | false => simp
  | true =>
      rw [utf8ByteSize_of_isIdentifier (fun _ inClass => .inl (isNameChar_iff.mp inClass))
        identifier]

/-- A flag key may be measured in bytes. -/
theorem isFlagKey_eq_bytes (key : String) :
    isFlagKey key =
      (3 ≤ key.utf8ByteSize && key.utf8ByteSize ≤ 100 &&
        isIdentifier isKeyChar key.toList) := by
  unfold isFlagKey
  cases identifier : isIdentifier isKeyChar key.toList with
  | false => simp
  | true => rw [utf8ByteSize_of_isIdentifier (fun _ => isKeyChar_iff.mp) identifier]

/-! ## Checks -/

/-- A check of each item passes exactly when it passes for all of them. -/
theorem forM_eq_ok_iff {check : α → Except ε Unit} {items : List α} :
    items.forM check = .ok () ↔ ∀ item ∈ items, check item = .ok () := by
  induction items with
  | nil => simp [pure, Except.pure]
  | cons first rest inductionHypothesis =>
      rw [List.forall_mem_cons, ← inductionHypothesis]
      change (check first >>= fun _ => rest.forM check) = .ok () ↔ _
      cases check first with
      | ok value => simp [bind, Except.bind]
      | error error => simp [bind, Except.bind]

/-- A check of each item fails as it does for the first one for which it fails. -/
theorem forM_eq_error_iff {check : α → Except ε Unit} {items : List α} {error : ε} :
    items.forM check = .error error ↔
      ∃ earlier item later, items = earlier ++ item :: later ∧
        (∀ passed ∈ earlier, check passed = .ok ()) ∧ check item = .error error := by
  induction items with
  | nil => simp [pure, Except.pure]
  | cons first rest inductionHypothesis =>
      change (check first >>= fun _ => rest.forM check) = .error error ↔ _
      cases checked : check first with
      | error cause =>
          simp only [bind, Except.bind, Except.error.injEq]
          constructor
          · rintro rfl
            exact ⟨[], first, rest, rfl, by simp, checked⟩
          · rintro ⟨earlier, item, later, parts, passed, failed⟩
            cases earlier with
            | nil =>
                obtain ⟨rfl, _⟩ := List.cons.inj parts
                exact Except.error.inj (checked.symm.trans failed)
            | cons head tail =>
                obtain ⟨rfl, _⟩ := List.cons.inj parts
                have passes := passed first List.mem_cons_self
                rw [checked] at passes
                cases passes
      | ok value =>
          refine inductionHypothesis.trans ?_
          constructor
          · rintro ⟨earlier, item, later, rfl, passed, failed⟩
            exact ⟨first :: earlier, item, later, rfl, List.forall_mem_cons.mpr ⟨checked, passed⟩,
              failed⟩
          · rintro ⟨earlier, item, later, parts, passed, failed⟩
            cases earlier with
            | nil =>
                obtain ⟨rfl, _⟩ := List.cons.inj parts
                rw [checked] at failed
                cases failed
            | cons head tail =>
                obtain ⟨rfl, isRest⟩ := List.cons.inj parts
                exact ⟨tail, item, later, isRest, (List.forall_mem_cons.mp passed).2, failed⟩

theorem checkEnvironment_eq_ok_iff {name : String} :
    checkEnvironment name = .ok () ↔ IsEnvironmentName name := by
  rw [← isEnvironment_iff]
  unfold checkEnvironment
  cases isEnvironment name with
  | true => simp
  | false => simp

theorem checkFlagKey_eq_ok_iff {key : String} :
    checkFlagKey key = .ok () ↔ IsKeyName key := by
  rw [← isFlagKey_iff]
  unfold checkFlagKey
  cases isFlagKey key with
  | true => simp
  | false => simp

/-- A condition that a flag may have. -/
structure Condition.IsBounded (condition : Condition) : Prop where
  percentage : ∀ threshold, condition = .percentage threshold → threshold.toNat ≤ 100
  window : ∀ opens closes, condition = .timeWindow (some opens) (some closes) → opens ≤ closes

theorem Condition.check_eq_ok_iff {condition : Condition} :
    condition.check = .ok () ↔ condition.IsBounded := by
  constructor
  · intro passed
    constructor
    · rintro threshold rfl
      by_contra tooMany
      have above : 100 < threshold := UInt8.lt_iff_toNat_lt.mpr (Nat.lt_of_not_le tooMany)
      simp [check, above] at passed
    · rintro opens closes rfl
      by_contra inverted
      have before : closes < opens := Int.lt_of_not_ge inverted
      simp [check, before] at passed
  · intro bounded
    unfold check
    split
    · rename_i threshold
      have below := bounded.percentage threshold rfl
      have notAbove : ¬100 < threshold := fun above =>
        absurd (UInt8.lt_iff_toNat_lt.mp above) (Nat.not_lt.mpr below)
      rw [if_neg notAbove]
    · rename_i opens closes
      have ordered : ¬closes < opens := Int.not_lt.mpr (bounded.window opens closes rfl)
      rw [if_neg ordered]
    · rfl

/-- Rules that a flag may have. -/
def AreBounded (rules : List Rule) : Prop :=
  ∀ rule ∈ rules, ∀ condition ∈ rule.conditions, condition.IsBounded

/-- What a caller may write of a flag. -/
structure FlagWrite.IsValid (write : FlagWrite) : Prop where
  environment : IsEnvironmentName write.environment
  key : IsKeyName write.key
  rules : AreBounded write.rules

/-- What is checked one after the other passes when everything does. -/
theorem bind_eq_ok_iff {first : Except ε Unit} {next : Unit → Except ε β} {value : β} :
    (first >>= next) = .ok value ↔ first = .ok () ∧ next () = .ok value := by
  cases first with
  | ok _ => simp [bind, Except.bind]
  | error error => simp [bind, Except.bind]

theorem FlagWrite.check_eq_ok_iff {write : FlagWrite} :
    write.check = .ok () ↔ write.IsValid := by
  unfold check
  rw [bind_eq_ok_iff, bind_eq_ok_iff, checkEnvironment_eq_ok_iff, checkFlagKey_eq_ok_iff,
    forM_eq_ok_iff]
  simp only [List.mem_flatMap, Condition.check_eq_ok_iff]
  constructor
  · rintro ⟨environment, key, conditions⟩
    exact ⟨environment, key, fun rule isRule condition isOf =>
      conditions condition ⟨rule, isRule, isOf⟩⟩
  · rintro ⟨environment, key, rules⟩
    refine ⟨environment, key, ?_⟩
    rintro condition ⟨rule, isRule, isOf⟩
    exact rules rule isRule condition isOf

/-- A name with a character that is no white space. -/
def IsNamed (holder : String) : Prop :=
  ∃ c ∈ holder.toList, Text.isBlank c = false

/-- What a caller may name to override a flag for somebody. -/
structure Scope.IsValid (scope : Scope) : Prop where
  environment : IsEnvironmentName scope.environment
  key : IsKeyName scope.key
  holder : IsNamed scope.holder

theorem Scope.check_eq_ok_iff {scope : Scope} : scope.check = .ok () ↔ scope.IsValid := by
  unfold check
  rw [bind_eq_ok_iff, bind_eq_ok_iff, checkEnvironment_eq_ok_iff, checkFlagKey_eq_ok_iff]
  have holder : (if Text.isAllBlank scope.holder then
      (.error .emptyScopeId : Except ValidationError Unit) else .ok ()) = .ok () ↔
        IsNamed scope.holder := by
    cases blank : Text.isAllBlank scope.holder with
    | true => simpa [IsNamed, Text.isAllBlank] using blank
    | false => simpa [IsNamed, Text.isAllBlank] using blank
  rw [holder]
  exact ⟨fun ⟨environment, key, named⟩ => ⟨environment, key, named⟩,
    fun valid => ⟨valid.environment, valid.key, valid.holder⟩⟩

/-- What a caller may ask to evaluate. -/
structure Evaluator.IsValid (environment : String) (keys : List String) : Prop where
  keys_ne_nil : keys ≠ []
  environment : IsEnvironmentName environment
  keys : ∀ key ∈ keys, IsKeyName key

theorem Evaluator.check_eq_ok_iff {environment : String} {keys : List String} :
    Evaluator.check environment keys = .ok () ↔ Evaluator.IsValid environment keys := by
  unfold check
  cases keys with
  | nil =>
      refine iff_of_false (fun passed => by cases passed) fun valid => valid.keys_ne_nil rfl
  | cons first rest =>
      have checked :
          (do
            checkEnvironment environment
            (first :: rest).forM checkFlagKey : Except ValidationError Unit) = .ok () ↔
          IsEnvironmentName environment ∧ ∀ key ∈ first :: rest, IsKeyName key := by
        rw [bind_eq_ok_iff, checkEnvironment_eq_ok_iff, forM_eq_ok_iff]
        simp only [checkFlagKey_eq_ok_iff]
      exact checked.trans ⟨fun ⟨name, keys⟩ => ⟨List.cons_ne_nil first rest, name, keys⟩,
        fun valid => ⟨valid.environment, valid.keys⟩⟩

end Switchboard
