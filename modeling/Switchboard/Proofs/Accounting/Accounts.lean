import Mathlib.Algebra.GroupWithZero.Nat
import Switchboard.Proofs.Accounting.Deeds

namespace Switchboard.Accounting

/-!
# Accounts

An account has two sides, to which exchanges add.  It settles for an operation if both sides
come out even, but for what is due for the error that the operation fails by.  Where this is so
of the reads and writes of a layer, it is so of every deed.
-/

/-- What a counter gains by an exchange. -/
def gain (counter : Counter) (exchange : Exchange) : Nat :=
  match exchange.request with
  | .count other amount => if other = counter then amount else 0
  | _ => 0

/-- What exchanges add up to. -/
def total (weigh : Exchange → Nat) (exchanges : List Exchange) : Nat :=
  (exchanges.map weigh).sum

@[simp] theorem total_nil (weigh : Exchange → Nat) : total weigh [] = 0 :=
  rfl

@[simp] theorem total_cons (weigh : Exchange → Nat) (exchange : Exchange)
    (rest : List Exchange) : total weigh (exchange :: rest) = weigh exchange + total weigh rest :=
  rfl

@[simp] theorem total_append (weigh : Exchange → Nat) (first second : List Exchange) :
    total weigh (first ++ second) = total weigh first + total weigh second := by
  rw [total, List.map_append, List.sum_append, total, total]

theorem total_add (first second : Exchange → Nat) (exchanges : List Exchange) :
    total (fun exchange => first exchange + second exchange) exchanges =
      total first exchanges + total second exchanges := by
  induction exchanges with
  | nil => rfl
  | cons exchange rest inductionHypothesis =>
      simp only [total_cons, inductionHypothesis]
      omega

theorem total_zero (exchanges : List Exchange) : total (fun _ => 0) exchanges = 0 := by
  induction exchanges with
  | nil => rfl
  | cons exchange rest inductionHypothesis => rw [total_cons, inductionHypothesis]

@[simp] theorem gain_counted (counter other : Counter) :
    gain counter (.counted other) = if other = counter then 1 else 0 :=
  rfl

/-- A counter of which an account is kept gains by accountable exchanges only. -/
theorem gain_of_not_accountable {counter : Counter} {exchange : Exchange}
    (accountable : counter.family.isAccountable = true)
    (quiet : exchange.isAccountable = false) : gain counter exchange = 0 := by
  obtain ⟨request, reply⟩ := exchange
  cases request with
  | count other amount =>
      refine if_neg fun same => ?_
      subst same
      rw [Exchange.isAccountable, Request.isAccountable, accountable] at quiet
      cases quiet
  | _ => rfl

/-- What is not accountable adds nothing to a weight that is none for it. -/
theorem total_filter {weigh : Exchange → Nat}
    (quiet : ∀ exchange : Exchange, exchange.isAccountable = false → weigh exchange = 0)
    (exchanges : List Exchange) :
    total weigh (exchanges.filter Exchange.isAccountable) = total weigh exchanges := by
  induction exchanges with
  | nil => rfl
  | cons exchange rest inductionHypothesis =>
      rw [List.filter_cons]
      split
      · rw [total_cons, total_cons, inductionHypothesis]
      · next isQuiet =>
          rw [total_cons, quiet exchange (Bool.eq_false_iff.mpr isQuiet), Nat.zero_add,
            inductionHypothesis]

/-- Two sides, and what is due for an error, where backends fail by others only. -/
structure Account where
  left : Exchange → Nat
  right : Exchange → Nat
  fails : ServiceError → Prop
  due : ServiceError → Nat
  quiet : ∀ exchange : Exchange, exchange.isAccountable = false →
    left exchange = 0 ∧ right exchange = 0
  hangs : ∀ operation, fails (.timeout operation)
  unowed : ∀ error, fails error ∨ error.isInfrastructure = true → due error = 0

namespace Account

variable {account : Account}

/-- What is due for the way in which an operation ended. -/
def dueFor (account : Account) : Except ServiceError α → Nat
  | .ok _ => 0
  | .error error => account.due error

/-- The sides come out even, but for what is due. -/
def Agrees (account : Account) (made : List Exchange) (extra : Nat) : Prop :=
  total account.left made = total account.right made + extra

/-- Whatever an operation leaves agrees, but for what is due for its end. -/
abbrev Settles (account : Account) (operation : Operation α) : Prop :=
  operation.Leaves account.fails fun made outcome => account.Agrees made (account.dueFor outcome)

theorem agrees_nil : account.Agrees [] 0 :=
  rfl

theorem Agrees.append {first second : List Exchange} {extra : Nat}
    (agrees : account.Agrees first 0) (goesOn : account.Agrees second extra) :
    account.Agrees (first ++ second) extra := by
  unfold Agrees at agrees goesOn ⊢
  rw [total_append, total_append, agrees, goesOn]
  omega

/-- Nothing is due where nothing failed, or backends did. -/
theorem dueFor_of_failsOnlyBy {outcome : Except ServiceError α}
    (failing : FailsOnlyBy account.fails outcome) : account.dueFor outcome = 0 := by
  cases outcome with
  | ok value => rfl
  | error error => exact account.unowed error (.inl (failing error rfl))

/-- Where nothing is ever due, nothing is due for an end. -/
theorem dueFor_eq_zero (account : Account) (never : ∀ error, account.due error = 0)
    (outcome : Except ServiceError α) : account.dueFor outcome = 0 := by
  cases outcome with
  | ok value => rfl
  | error error => exact never error

theorem settles_of_leaves {operation : Operation α}
    (leaves : operation.Leaves account.fails fun made outcome =>
      account.Agrees made 0 ∧ FailsOnlyBy account.fails outcome) :
    account.Settles operation :=
  leaves.mono fun made outcome ⟨agrees, failing⟩ => by
    rwa [dueFor_of_failsOnlyBy failing]

/-! ## What accounts cover -/

/-- An account that comes out even for reads of a layer. -/
structure CoversReads (account : Account) : Prop where
  hit : ∀ kind, account.Agrees [.lookup kind .hit] 0
  flag : ∀ outcome environment key (reply : Outcome (Option Flag)), outcome ≠ .hit →
    account.Agrees [.lookup .flag outcome, ⟨.call (.readFlag environment key), reply⟩] 0
  override : ∀ outcome scope now (reply : Outcome (Option OverrideValue)), outcome ≠ .hit →
    account.Agrees [.lookup .override outcome, ⟨.call (.findOverride scope now), reply⟩] 0

/-- An account that comes out even for all that deeds are made of. -/
structure Covers (account : Account) : Prop extends CoversReads account where
  evaluated : ∀ reason : Reason, account.Agrees [.counted ⟨.evaluations, [reason.label]⟩] 0
  checked : ∀ cause, account.due (.validation cause) = 0
  forbidden : ∀ key,
    account.Agrees [.counted ⟨.forbiddenAttempts, []⟩] (account.due (.forbidden key))
  flagUnwritten : ∀ write expected (reply : Outcome (Option Flag)) error,
    reply.toExcept "flag write" = .error error →
      account.Agrees [⟨.call (.applyFlagWrite write expected), reply⟩] 0
  flagWritten : ∀ write expected flag news, Exchange.IsNews news →
    account.Agrees [⟨.call (.applyFlagWrite write expected), .answered (some flag)⟩, news] 0
  flagRefused : ∀ write expected,
    account.Agrees [⟨.call (.applyFlagWrite write expected), .answered none⟩] 0
  flagConflict : ∀ write expected environment key version actual,
    account.Agrees
      [⟨.call (.applyFlagWrite write expected), .answered none⟩,
        .counted ⟨.versionConflicts, []⟩]
      (account.due (.versionConflict environment key version actual))
  overrideUnwritten : ∀ scope value expiresAt (reply : Outcome Override) error,
    reply.toExcept "override write" = .error error →
      account.Agrees [⟨.call (.upsertOverride scope value expiresAt), reply⟩] 0
  overrideWritten : ∀ scope value expiresAt stored news, Exchange.IsNews news →
    account.Agrees
      [⟨.call (.upsertOverride scope value expiresAt), .answered stored⟩, news] 0
  overrideUncleared : ∀ scope (reply : Outcome Unit) error,
    reply.toExcept "override delete" = .error error →
      account.Agrees [⟨.call (.clearOverride scope), reply⟩] 0
  overrideCleared : ∀ scope news, Exchange.IsNews news →
    account.Agrees [⟨.call (.clearOverride scope), .answered ()⟩, news] 0

/-- What comes out even for reads of a layer does so for reads in a row. -/
theorem CoversReads.carries (covers : account.CoversReads) :
    CarriesReads fun operation => account.Settles operation where
  returns value := Operation.leaves_pure agrees_nil
  follows first next := by
    refine Operation.leaves_bind (first.mono ?_)
    intro made outcome agrees
    cases outcome with
    | ok value => exact (next value).mono fun rest ended goesOn => agrees.append goesOn
    | error error => exact agrees
  rescues excuses settles := by
    refine Operation.leaves_bind (Operation.leaves_attempt (settles.mono ?_))
    intro made outcome agrees
    cases outcome with
    | ok found => exact Operation.leaves_pure (agrees.append agrees_nil)
    | error error =>
        dsimp only
        split
        · next excused =>
            rw [dueFor, account.unowed error (.inr (excuses error excused))] at agrees
            exact Operation.leaves_pure (agrees.append agrees_nil)
        · refine Operation.leaves_throw ?_
          rwa [List.append_nil]
  asks request quiet := by
    refine Operation.leaves_ask ?_
    intro reply failing
    have nothing : request.leaves reply = [] := if_neg (by simp [quiet])
    rw [nothing]
    exact agrees_nil
  getFlag layer environment key := by
    refine settles_of_leaves (Layer.leaves_getFlag account.hangs ?_ ?_)
    · intro flag
      exact ⟨covers.hit .flag, failsOnlyBy_ok _⟩
    · intro outcome reply noHit failing
      exact ⟨covers.flag outcome environment key reply noHit, failing⟩
  getOverrideAt layer scope now := by
    refine settles_of_leaves (Layer.leaves_getOverrideAt account.hangs ?_ ?_)
    · intro found
      exact ⟨covers.hit .override, failsOnlyBy_ok _⟩
    · intro outcome reply noHit failing
      exact ⟨covers.override outcome scope now reply noHit, failing⟩

/-- What comes out even for all that deeds are made of does so for deeds. -/
theorem Covers.carries (covers : account.Covers) :
    Carries fun operation => account.Settles operation where
  toCarriesReads := covers.toCoversReads.carries
  refuses cause := by
    refine Operation.leaves_throw ?_
    rw [dueFor, covers.checked cause]
    exact agrees_nil
  forbids key := by
    refine Operation.leaves_bind (Operation.leaves_count rfl ?_)
    exact Operation.leaves_throw (covers.forbidden key)
  writeFlag layer write expected := by
    refine Layer.leaves_writeFlag account.hangs ?_ ?_ ?_ ?_
    · intro reply error unwritten failing
      rw [dueFor_of_failsOnlyBy (failsOnlyBy_error failing)]
      exact covers.flagUnwritten write expected reply error unwritten
    · intro flag news outcome isNews failing
      rw [dueFor_of_failsOnlyBy failing]
      exact covers.flagWritten write expected flag news isNews
    · intro error failing
      rw [dueFor_of_failsOnlyBy (failsOnlyBy_error failing)]
      exact covers.flagRefused write expected
    · intro environment key version actual
      exact covers.flagConflict write expected environment key version actual
  upsertOverride layer scope value expiresAt := by
    refine settles_of_leaves (Layer.leaves_upsertOverride account.hangs ?_ ?_)
    · intro reply error unwritten failing
      exact ⟨covers.overrideUnwritten scope value expiresAt reply error unwritten,
        failsOnlyBy_error failing⟩
    · intro stored news outcome isNews failing
      exact ⟨covers.overrideWritten scope value expiresAt stored news isNews, failing⟩
  clearOverride layer scope := by
    refine settles_of_leaves (Layer.leaves_clearOverride account.hangs ?_ ?_)
    · intro reply error unwritten failing
      exact ⟨covers.overrideUncleared scope reply error unwritten, failsOnlyBy_error failing⟩
    · intro news outcome isNews failing
      exact ⟨covers.overrideCleared scope news isNews, failing⟩
  sweep now limit := by
    refine settles_of_leaves (Layer.leaves_sweep ?_)
    intro outcome failing
    exact ⟨agrees_nil, failing⟩
  resolves resolver environment key tenantId userId context settles := by
    have reads := covers.toCoversReads.carries
    refine reads.follows settles fun resolution => ?_
    have counted : account.Settles (Operation.count ⟨.evaluations, [resolution.reason.label]⟩) :=
      Operation.leaves_count rfl (covers.evaluated resolution.reason)
    exact reads.follows counted fun _ => reads.returns resolution

end Account

/-! ## Accounts that are kept -/

/-- The counter of the lookups of a kind that ended so. -/
def lookupCounter (kind : EntryKind) (outcome : LookupOutcome) : Counter :=
  ⟨.cacheLookups, [kind.label, outcome.label]⟩

/-- A read of the store for entries of a kind. -/
def isRead (kind : EntryKind) (exchange : Exchange) : Bool :=
  match exchange.request with
  | .call (.readFlag ..) => kind == .flag
  | .call (.findOverride ..) => kind == .override
  | _ => false

/-- A write that the store reported as applied. -/
def isApplied : Exchange → Bool
  | ⟨.call (.applyFlagWrite ..), .answered (some _)⟩ => true
  | ⟨.call (.upsertOverride ..), .answered _⟩ => true
  | ⟨.call (.clearOverride _), .answered _⟩ => true
  | _ => false

/-- A weight of one for each exchange that is such. -/
def each (isSuch : Exchange → Bool) (exchange : Exchange) : Nat :=
  if isSuch exchange then 1 else 0

theorem total_each (isSuch : Exchange → Bool) (exchanges : List Exchange) :
    total (each isSuch) exchanges = exchanges.countP isSuch := by
  induction exchanges with
  | nil => rfl
  | cons exchange rest inductionHypothesis =>
      rw [total_cons, List.countP_cons, inductionHypothesis, Nat.add_comm]
      rfl

theorem isRead_of_not_accountable {kind : EntryKind} {exchange : Exchange}
    (quiet : exchange.isAccountable = false) : isRead kind exchange = false := by
  unfold isRead
  split
  · next asks =>
      rw [Exchange.isAccountable, asks] at quiet
      cases quiet
  · next asks =>
      rw [Exchange.isAccountable, asks] at quiet
      cases quiet
  · rfl

theorem isApplied_of_not_accountable {exchange : Exchange}
    (quiet : exchange.isAccountable = false) : isApplied exchange = false := by
  unfold isApplied
  split
  · cases quiet
  · cases quiet
  · cases quiet
  · rfl

/-- Lookups of a kind that were no hit, and the reads of the store for it. -/
def storeReads (kind : EntryKind) : Account where
  left exchange :=
    gain (lookupCounter kind .miss) exchange + gain (lookupCounter kind .error) exchange
  right := each (isRead kind)
  fails _ := True
  due _ := 0
  quiet exchange quiet := by
    rw [gain_of_not_accountable rfl quiet, gain_of_not_accountable rfl quiet, each,
      isRead_of_not_accountable quiet]
    exact ⟨rfl, rfl⟩
  hangs _ := trivial
  unowed _ _ := rfl

/-- News that were told, one way or the other, and writes that the store applied. -/
def announcements : Account where
  left exchange :=
    gain ⟨.invalidationsPublished, ["flag.updated"]⟩ exchange +
      gain ⟨.invalidationsPublished, ["override.changed"]⟩ exchange +
        gain ⟨.invalidationFailures, []⟩ exchange
  right := each isApplied
  fails _ := True
  due _ := 0
  quiet exchange quiet := by
    rw [gain_of_not_accountable rfl quiet, gain_of_not_accountable rfl quiet,
      gain_of_not_accountable rfl quiet, each, isApplied_of_not_accountable quiet]
    exact ⟨rfl, rfl⟩
  hangs _ := trivial
  unowed _ _ := rfl

/-- What a caller is told who may not do something, or does it to something that has changed. -/
inductive Verdict where
  | conflict
  | refusal
  deriving DecidableEq, Repr

namespace Verdict

/-- The counter of a verdict. -/
def counter : Verdict → Counter
  | conflict => ⟨.versionConflicts, []⟩
  | refusal => ⟨.forbiddenAttempts, []⟩

/-- Whether an error gives a verdict. -/
def isGivenBy : Verdict → ServiceError → Bool
  | conflict => ServiceError.isConflict
  | refusal => ServiceError.isForbidden

/-- A backend out of reach gives no verdict. -/
theorem isGivenBy_of_isInfrastructure (verdict : Verdict) {error : ServiceError}
    (infrastructure : error.isInfrastructure = true) : verdict.isGivenBy error = false := by
  cases error with
  | database | timeout | cache | bus => cases verdict <;> rfl
  | _ => cases infrastructure

end Verdict

/-- What the counter of a verdict gains, where backends do not give it of themselves. -/
def verdicts (verdict : Verdict) : Account where
  left := gain verdict.counter
  right _ := 0
  fails error := verdict.isGivenBy error = false
  due error := if verdict.isGivenBy error then 1 else 0
  quiet _ quiet := ⟨gain_of_not_accountable (by cases verdict <;> rfl) quiet, rfl⟩
  hangs _ := verdict.isGivenBy_of_isInfrastructure rfl
  unowed error harmless := by
    have notGiven := harmless.elim id verdict.isGivenBy_of_isInfrastructure
    simp only [notGiven, Bool.false_eq_true, if_false]

/-- Evaluations with a label. -/
def evaluations (label : String) : Account where
  left := gain ⟨.evaluations, [label]⟩
  right _ := 0
  fails _ := True
  due _ := 0
  quiet _ quiet := ⟨gain_of_not_accountable rfl quiet, rfl⟩
  hangs _ := trivial
  unowed _ _ := rfl

section Covering

open Account Exchange

theorem covers_storeReads (kind : EntryKind) : (storeReads kind).Covers where
  hit other := by cases kind <;> cases other <;> rfl
  flag outcome _ _ _ noHit := by
    cases kind <;> cases outcome <;> first | rfl | exact absurd rfl noHit
  override outcome _ _ _ noHit := by
    cases kind <;> cases outcome <;> first | rfl | exact absurd rfl noHit
  evaluated _ := rfl
  checked _ := rfl
  forbidden _ := rfl
  flagUnwritten _ _ _ _ _ := rfl
  flagWritten _ _ _ _ isNews := by cases isNews <;> rfl
  flagRefused _ _ := rfl
  flagConflict _ _ _ _ _ _ := rfl
  overrideUnwritten _ _ _ _ _ _ := rfl
  overrideWritten _ _ _ _ _ isNews := by cases isNews <;> rfl
  overrideUncleared _ _ _ _ := rfl
  overrideCleared _ _ isNews := by cases isNews <;> rfl

/-- News of either kind, and news that were lost, are told once. -/
private theorem told_announcements {news : Exchange} (isNews : news.IsNews) :
    announcements.left news = 1 ∧ announcements.right news = 0 := by
  cases isNews with
  | published event => cases event <;> exact ⟨rfl, rfl⟩
  | lost => exact ⟨rfl, rfl⟩

private theorem agrees_announcements {write news : Exchange}
    (applied : announcements.left write = 0 ∧ announcements.right write = 1)
    (isNews : news.IsNews) : announcements.Agrees [write, news] 0 := by
  have told := told_announcements isNews
  simp only [Agrees, total_cons, total_nil, applied, told]

theorem covers_announcements : announcements.Covers where
  hit _ := rfl
  flag _ _ _ _ _ := rfl
  override _ _ _ _ _ := rfl
  evaluated _ := rfl
  checked _ := rfl
  forbidden _ := rfl
  flagUnwritten _ _ reply _ unwritten := by
    cases reply with
    | answered flag? => cases unwritten
    | _ => rfl
  flagWritten _ _ _ _ isNews := agrees_announcements ⟨rfl, rfl⟩ isNews
  flagRefused _ _ := rfl
  flagConflict _ _ _ _ _ _ := rfl
  overrideUnwritten _ _ _ reply _ unwritten := by
    cases reply with
    | answered stored => cases unwritten
    | _ => rfl
  overrideWritten _ _ _ _ _ isNews := agrees_announcements ⟨rfl, rfl⟩ isNews
  overrideUncleared _ reply _ unwritten := by
    cases reply with
    | answered done => cases unwritten
    | _ => rfl
  overrideCleared _ _ isNews := agrees_announcements ⟨rfl, rfl⟩ isNews

theorem covers_verdicts (verdict : Verdict) : (verdicts verdict).Covers where
  hit _ := by cases verdict <;> rfl
  flag _ _ _ _ _ := by cases verdict <;> rfl
  override _ _ _ _ _ := by cases verdict <;> rfl
  evaluated _ := by cases verdict <;> rfl
  checked _ := by cases verdict <;> rfl
  forbidden _ := by cases verdict <;> rfl
  flagUnwritten _ _ _ _ _ := rfl
  flagWritten _ _ _ _ isNews := by cases verdict <;> cases isNews <;> rfl
  flagRefused _ _ := rfl
  flagConflict _ _ _ _ _ _ := by cases verdict <;> rfl
  overrideUnwritten _ _ _ _ _ _ := rfl
  overrideWritten _ _ _ _ _ isNews := by cases verdict <;> cases isNews <;> rfl
  overrideUncleared _ _ _ _ := rfl
  overrideCleared _ _ isNews := by cases verdict <;> cases isNews <;> rfl

theorem coversReads_evaluations (label : String) : (evaluations label).CoversReads where
  hit _ := rfl
  flag _ _ _ _ _ := rfl
  override _ _ _ _ _ := rfl

end Covering

end Switchboard.Accounting
