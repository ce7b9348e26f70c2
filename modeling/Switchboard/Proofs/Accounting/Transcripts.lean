import Switchboard.Proofs.Layer.Announcements
import Switchboard.Proofs.Layer.Changes

namespace Switchboard

/-!
# What is left of a run

A few of the exchanges of a run are accounted for: reads and writes of the stores, and the
counting of lookups, evaluations, refused attempts, conflicts and news.  The others leave
nothing.  What an operation leaves is read off its program, for every reply that it may get,
together with the way in which it ends.
-/

/-- Whether an account is kept of the counters of a family. -/
def CounterFamily.isAccountable : CounterFamily → Bool
  | .cacheLookups => true
  | .evaluations => true
  | .forbiddenAttempts => true
  | .invalidationFailures => true
  | .invalidationsPublished => true
  | .versionConflicts => true
  | .exposureFailures => false
  | .exposureRecordsDropped => false
  | .exposureRecordsSent => false
  | .storeTimeouts => false

/-- Whether an account is kept of a request. -/
def Request.isAccountable : Request → Bool
  | .call (.readFlag ..) => true
  | .call (.findOverride ..) => true
  | .call (.applyFlagWrite ..) => true
  | .call (.upsertOverride ..) => true
  | .call (.clearOverride _) => true
  | .count counter _ => counter.family.isAccountable
  | _ => false

/-- What an exchange leaves. -/
def Request.leaves (request : Request) (reply : request.Reply) : List Exchange :=
  if request.isAccountable then [⟨request, reply⟩] else []

namespace Exchange

/-- Whether an account is kept of an exchange. -/
def isAccountable (exchange : Exchange) : Bool :=
  exchange.request.isAccountable

/-- If a backend answered with an error, it was one of these. -/
def FailsBy (fails : ServiceError → Prop) (exchange : Exchange) : Prop :=
  ∀ error, exchange.request.errorOf exchange.reply = some error → fails error

/-- A counter that was counted once. -/
def counted (counter : Counter) : Exchange :=
  ⟨.count counter 1, ()⟩

/-- A lookup that was counted. -/
def lookup (kind : EntryKind) (outcome : LookupOutcome) : Exchange :=
  counted ⟨.cacheLookups, [kind.label, outcome.label]⟩

/-- The counting of news that went out, or could not. -/
inductive IsNews : Exchange → Prop where
  | published (event : Invalidation) :
      IsNews (counted ⟨.invalidationsPublished, [event.eventType]⟩)
  | lost : IsNews (counted ⟨.invalidationFailures, []⟩)

end Exchange

/-- What a program leaves, however it is answered, and how it ends then. -/
def Program.Leaves (fails : ServiceError → Prop) :
    Program α → (List Exchange → α → Prop) → Prop
  | .done value, ends => ends [] value
  | .step request resume, ends =>
      ∀ reply, (∀ error, request.errorOf reply = some error → fails error) →
        (resume reply).Leaves fails fun rest value => ends (request.leaves reply ++ rest) value

namespace Program

variable {fails : ServiceError → Prop}

theorem Leaves.mono {program : Program α} {ends wider : List Exchange → α → Prop}
    (leaves : program.Leaves fails ends)
    (implies : ∀ made value, ends made value → wider made value) :
    program.Leaves fails wider := by
  induction program generalizing ends wider with
  | done value => exact implies [] value leaves
  | step request resume inductionHypothesis =>
      exact fun reply failing =>
        inductionHypothesis reply (leaves reply failing) fun made value => implies _ value

/-- Programs in a row leave what the first leaves, and then what the second does. -/
theorem leaves_bind {program : Program α} {next : α → Program β}
    {ends : List Exchange → β → Prop}
    (leaves : program.Leaves fails fun made value =>
      (next value).Leaves fails fun rest => ends (made ++ rest)) :
    (program.bind next).Leaves fails ends := by
  induction program generalizing ends with
  | done value => exact leaves
  | step request resume inductionHypothesis =>
      refine fun reply failing => inductionHypothesis reply ?_
      refine (leaves reply failing).mono fun made value goesOn => ?_
      refine goesOn.mono fun rest result ended => ?_
      rwa [List.append_assoc] at ended

variable {State : Type} {handler : (request : Request) → State → request.Reply × State}

/-- What is left of a run under a handler that fails so. -/
theorem Leaves.exchanges {program : Program α} {ends : List Exchange → α → Prop} {state : State}
    (leaves : program.Leaves fails ends)
    (failing : ∀ exchange ∈ program.exchanges handler state, exchange.FailsBy fails) :
    ends ((program.exchanges handler state).filter Exchange.isAccountable)
      (program.run handler state).1 := by
  induction program generalizing ends state with
  | done value => exact leaves
  | step request resume inductionHypothesis =>
      obtain ⟨first, rest⟩ := List.forall_mem_cons.mp failing
      have ended := inductionHypothesis _ (leaves _ first) rest
      simp only [Program.exchanges, Program.run]
      rw [List.filter_cons]
      unfold Request.leaves at ended
      unfold Exchange.isAccountable
      split at ended
      · next accountable => rwa [if_pos accountable]
      · next quiet => rwa [if_neg quiet]

end Program

namespace Operation

/-- What an operation leaves, however it is answered, and how it ends then. -/
abbrev Leaves
    (fails : ServiceError → Prop)
    (operation : Operation α)
    (ends : List Exchange → Except ServiceError α → Prop) : Prop :=
  operation.run.Leaves fails ends

variable {fails : ServiceError → Prop} {ends : List Exchange → Except ServiceError α → Prop}

theorem leaves_pure {value : α} (ended : ends [] (.ok value)) :
    (pure value : Operation α).Leaves fails ends :=
  ended

theorem leaves_throw {error : ServiceError} (ended : ends [] (.error error)) :
    (throw error : Operation α).Leaves fails ends :=
  ended

/-- An operation goes on where the one before succeeded, and ends where it failed. -/
theorem leaves_bind {first : Operation β} {next : β → Operation α}
    (leaves : first.Leaves fails fun made outcome =>
      match outcome with
      | .ok value => (next value).Leaves fails fun rest => ends (made ++ rest)
      | .error error => ends made (.error error)) :
    (first >>= next).Leaves fails ends := by
  refine Program.leaves_bind (leaves.mono fun made outcome ended => ?_)
  cases outcome with
  | ok value => exact ended
  | error error =>
      show ends (made ++ []) (.error error)
      rwa [List.append_nil]

/-- A program that is part of an operation cannot make it fail. -/
theorem leaves_lift {program : Program α}
    (leaves : program.Leaves fails fun made value => ends made (.ok value)) :
    (ExceptT.lift program : Operation α).Leaves fails ends := by
  refine Program.leaves_bind (leaves.mono fun made value ended => ?_)
  show ends (made ++ []) (.ok value)
  rwa [List.append_nil]

/-- The outcome of an attempt is no failure. -/
theorem leaves_attempt {operation : Operation β}
    {ends : List Exchange → Except ServiceError (Except ServiceError β) → Prop}
    (leaves : operation.Leaves fails fun made outcome => ends made (.ok outcome)) :
    operation.attempt.Leaves fails ends :=
  leaves_lift leaves

theorem leaves_ask {request : Request}
    {ends : List Exchange → Except ServiceError request.Reply → Prop}
    (ended : ∀ reply, (∀ error, request.errorOf reply = some error → fails error) →
      ends (request.leaves reply) (.ok reply)) :
    (ask request).Leaves fails ends := by
  intro reply failing
  show ends (request.leaves reply ++ []) (.ok reply)
  rw [List.append_nil]
  exact ended reply failing

theorem leaves_count {counter : Counter} {ends : List Exchange → Except ServiceError Unit → Prop}
    (accountable : counter.family.isAccountable = true)
    (ended : ends [.counted counter] (.ok ())) :
    (count counter).Leaves fails ends := by
  refine leaves_ask fun _ _ => ?_
  have left : (Request.count counter 1).leaves () = [.counted counter] := if_pos accountable
  rwa [left]

section Calls

variable (hangs : ∀ operation, fails (.timeout operation)) {call : Call}
variable {ends : List Exchange → Except ServiceError call.Answer → Prop}
include hangs

/-- A call leaves itself, if an account is kept of it, also where it is given up. -/
theorem leaves_call
    (ended : ∀ reply : Outcome call.Answer,
      (∀ error, reply.toExcept call.operation = .error error → fails error) →
        ends ((Request.call call).leaves reply) (reply.toExcept call.operation)) :
    (Operation.call call).Leaves fails ends := by
  refine leaves_bind (leaves_ask fun reply failing => ?_)
  cases reply with
  | answered value =>
      refine leaves_pure ?_
      rw [List.append_nil]
      exact ended (.answered value) fun error same => by cases same
  | failed error =>
      refine leaves_throw ?_
      rw [List.append_nil]
      refine ended (.failed error) fun cause same => ?_
      cases same
      exact failing _ rfl
  | timedOut =>
      refine leaves_bind (leaves_ask fun _ _ => leaves_throw ?_)
      simp only [Request.leaves, Request.isAccountable, CounterFamily.isAccountable,
        Bool.false_eq_true, if_false, List.append_nil]
      refine ended .timedOut fun cause same => ?_
      cases same
      exact hangs _

/-- A call of which no account is kept leaves nothing. -/
theorem leaves_quiet_call
    (quiet : (Request.call call).isAccountable = false)
    (answered : ∀ value, ends [] (.ok value))
    (failed : ∀ error, fails error → ends [] (.error error)) :
    (Operation.call call).Leaves fails ends := by
  refine leaves_call hangs fun reply failing => ?_
  have nothing : (Request.call call).leaves reply = [] := if_neg (by simp [quiet])
  rw [nothing]
  cases outcome : reply.toExcept call.operation with
  | ok value => exact answered value
  | error error => exact failed error (failing error outcome)

/-- Nothing comes of a call that is not answered, and of one that is, what is done with it. -/
theorem leaves_call_then {next : call.Answer → Operation α}
    {ends : List Exchange → Except ServiceError α → Prop}
    (accountable : (Request.call call).isAccountable = true)
    (unanswered : ∀ (reply : Outcome call.Answer) error,
      reply.toExcept call.operation = .error error → fails error →
        ends [⟨.call call, reply⟩] (.error error))
    (answered : ∀ value, (next value).Leaves fails fun rest =>
      ends (⟨.call call, .answered value⟩ :: rest)) :
    (Operation.call call >>= next).Leaves fails ends := by
  refine leaves_bind (leaves_call hangs fun reply failing => ?_)
  have left : (Request.call call).leaves reply = [⟨.call call, reply⟩] := if_pos accountable
  rw [left]
  cases reply with
  | failed error => exact unanswered (.failed error) error rfl (failing error rfl)
  | timedOut => exact unanswered .timedOut _ rfl (failing _ rfl)
  | answered value => exact answered value

end Calls

/-- What is found out without asking leaves nothing. -/
theorem leaves_known {known : Except ServiceError α} (ended : ends [] known) :
    (ExceptT.mk (pure known) : Operation α).Leaves fails ends :=
  ended

end Operation

namespace Layer

open Operation

variable {fails : ServiceError → Prop} {layer : Layer} {environment key : String}
  {scope : Scope} {now : Instant}
variable (hangs : ∀ operation, fails (.timeout operation))
include hangs

/-! ## Reads -/

/-- Dropping an entry leaves nothing and does not fail. -/
theorem leaves_evict {cacheKey : String} {ends : List Exchange → Except ServiceError Unit → Prop}
    (ended : ends [] (.ok ())) :
    (evict cacheKey).Leaves fails ends :=
  leaves_bind (leaves_attempt (leaves_quiet_call hangs rfl (fun _ => leaves_pure ended)
    fun _ _ => leaves_pure ended))

/-- Filling leaves nothing and does not fail. -/
theorem leaves_populate [Wire α] {cacheKey : String} {value : α}
    {ends : List Exchange → Except ServiceError Unit → Prop}
    (ended : ends [] (.ok ())) :
    (layer.populate cacheKey value).Leaves fails ends :=
  leaves_bind (leaves_attempt (leaves_quiet_call hangs rfl (fun _ => leaves_pure ended)
    fun _ _ => leaves_pure ended))

/-- A lookup is counted once: as a hit where it gives a value, and else as none. -/
theorem leaves_cached {α : Type} [Wire α] {kind : EntryKind} {cacheKey : String}
    {ends : List Exchange → Except ServiceError (Option α) → Prop}
    (hit : ∀ value, ends [.lookup kind .hit] (.ok (some value)))
    (noHit : ∀ outcome : LookupOutcome, outcome ≠ .hit → ends [.lookup kind outcome] (.ok none)) :
    (cached α kind cacheKey).Leaves fails ends := by
  have noValue (outcome : LookupOutcome) (isNone : outcome ≠ .hit) :
      (do countLookup kind outcome; return none : Operation (Option α)).Leaves fails ends :=
    leaves_bind (leaves_count rfl (leaves_pure (noHit outcome isNone)))
  refine leaves_bind (leaves_attempt (leaves_quiet_call hangs rfl
    (fun text? : Option String => ?_) fun _ _ => noValue .error (by simp)))
  cases text? with
  | none => exact noValue .miss (by simp)
  | some text =>
      dsimp only
      cases Wire.decode? (α := α) text with
      | some value => exact leaves_bind (leaves_count rfl (leaves_pure (hit value)))
      | none =>
          exact leaves_bind (leaves_count rfl (leaves_bind (leaves_evict hangs
            (leaves_pure (noHit .error (by simp))))))

/-- A read of a flag is a hit, or it asks the store once and ends as the store answers. -/
theorem leaves_getFlag {ends : List Exchange → Except ServiceError (Option Flag) → Prop}
    (hit : ∀ flag, ends [.lookup .flag .hit] (.ok (some flag)))
    (read : ∀ (outcome : LookupOutcome) (reply : Outcome (Option Flag)), outcome ≠ .hit →
      (∀ error, reply.toExcept "flag lookup" = .error error → fails error) →
        ends [.lookup .flag outcome, ⟨.call (.readFlag environment key), reply⟩]
          (reply.toExcept "flag lookup")) :
    (layer.getFlag environment key).Leaves fails ends := by
  refine leaves_bind (leaves_cached hangs (fun flag => leaves_pure (hit flag))
    fun outcome noHit => ?_)
  refine leaves_bind (leaves_call hangs fun (reply : Outcome (Option Flag)) failing => ?_)
  have ended := read outcome reply noHit failing
  cases reply with
  | failed error => exact ended
  | timedOut => exact ended
  | answered flag? =>
      cases flag? with
      | none => exact leaves_pure ended
      | some flag => exact leaves_bind (leaves_populate hangs (leaves_pure ended))

/-- A read of an override is a hit, or it asks the store once and ends as the store answers. -/
theorem leaves_getOverrideAt
    {ends : List Exchange → Except ServiceError (Option OverrideValue) → Prop}
    (hit : ∀ found, ends [.lookup .override .hit] (.ok found))
    (read : ∀ (outcome : LookupOutcome) (reply : Outcome (Option OverrideValue)),
      outcome ≠ .hit →
        (∀ error, reply.toExcept "override lookup" = .error error → fails error) →
          ends [.lookup .override outcome, ⟨.call (.findOverride scope now), reply⟩]
            (reply.toExcept "override lookup")) :
    (layer.getOverrideAt scope now).Leaves fails ends := by
  refine leaves_bind (leaves_cached hangs (fun value => ?_) fun outcome noHit => ?_)
  · dsimp only
    split
    · exact leaves_pure (hit _)
    · exact leaves_bind (leaves_evict hangs (leaves_pure (hit none)))
  · refine leaves_bind (leaves_call hangs
      fun (reply : Outcome (Option OverrideValue)) failing => ?_)
    have ended := read outcome reply noHit failing
    cases reply with
    | failed error => exact ended
    | timedOut => exact ended
    | answered value? =>
        cases value? with
        | none => exact leaves_pure ended
        | some value => exact leaves_bind (leaves_populate hangs (leaves_pure ended))

/-! ## Writes -/

/-- An invalidation leaves its news, counted one way or the other. -/
theorem leaves_invalidate {cacheKey : String} {event : Invalidation}
    {ends : List Exchange → Except ServiceError Unit → Prop}
    (told : ∀ news outcome, Exchange.IsNews news → FailsOnlyBy fails outcome →
      ends [news] outcome) :
    (layer.invalidate cacheKey event).Leaves fails ends := by
  refine leaves_bind (leaves_attempt (leaves_quiet_call hangs rfl (fun _ => ?_) fun _ wrong => ?_))
  · have ended (news : Exchange) (isNews : news.IsNews) : ends [news] (.ok ()) :=
      told news (.ok ()) isNews (failsOnlyBy_ok ())
    exact leaves_bind (leaves_attempt (leaves_quiet_call hangs rfl
      (fun _ => leaves_bind (leaves_count rfl (leaves_pure (ended _ (.published event)))))
      fun _ _ => leaves_bind (leaves_count rfl (leaves_pure (ended _ .lost)))))
  · have ended (news : Exchange) (isNews : news.IsNews) : ends [news] (.error _) :=
      told news (.error _) isNews (failsOnlyBy_error wrong)
    exact leaves_bind (leaves_attempt (leaves_quiet_call hangs rfl
      (fun _ => leaves_bind (leaves_count rfl (leaves_throw (ended _ (.published event)))))
      fun _ _ => leaves_bind (leaves_count rfl (leaves_throw (ended _ .lost)))))

/-- The news of a write are told once, and the write ends with its value unless that fails. -/
theorem leaves_invalidate_then {cacheKey : String} {event : Invalidation} {value : α}
    {ends : List Exchange → Except ServiceError α → Prop}
    (told : ∀ news outcome, Exchange.IsNews news → FailsOnlyBy fails outcome →
      ends [news] outcome) :
    (do layer.invalidate cacheKey event; return value : Operation α).Leaves fails ends := by
  refine leaves_bind (leaves_invalidate hangs fun news outcome isNews failing => ?_)
  cases outcome with
  | ok done => exact leaves_pure (told news (.ok value) isNews (failsOnlyBy_ok value))
  | error error => exact told news (.error error) isNews (failsOnlyBy_error (failing error rfl))

/-- A write of a flag leaves the write, and then its news or the conflict that it met. -/
theorem leaves_writeFlag {write : FlagWrite} {expected : Option Int64}
    {ends : List Exchange → Except ServiceError Flag → Prop}
    (unwritten : ∀ (reply : Outcome (Option Flag)) error,
      reply.toExcept "flag write" = .error error → fails error →
        ends [⟨.call (.applyFlagWrite write expected), reply⟩] (.error error))
    (written : ∀ flag news outcome, Exchange.IsNews news → FailsOnlyBy fails outcome →
      ends [⟨.call (.applyFlagWrite write expected), .answered (some flag)⟩, news] outcome)
    (unseen : ∀ error, fails error →
      ends [⟨.call (.applyFlagWrite write expected), .answered none⟩] (.error error))
    (conflict : ∀ environment key version actual,
      ends [⟨.call (.applyFlagWrite write expected), .answered none⟩,
          .counted ⟨.versionConflicts, []⟩]
        (.error (.versionConflict environment key version actual))) :
    (layer.writeFlag write expected).Leaves fails ends := by
  refine leaves_call_then hangs rfl unwritten fun (written? : Option Flag) => ?_
  cases written? with
  | some flag =>
      exact leaves_bind (leaves_ask fun _ _ => leaves_invalidate_then hangs (written flag))
  | none =>
      refine leaves_bind (leaves_quiet_call hangs rfl (fun actual => ?_)
        fun error wrong => unseen error wrong)
      exact leaves_bind (leaves_count rfl (leaves_throw (conflict _ _ _ actual)))

/-- A write of an override leaves the write, and its news where it was applied. -/
theorem leaves_upsertOverride {value : Bool} {expiresAt : Option Instant}
    {ends : List Exchange → Except ServiceError Override → Prop}
    (unwritten : ∀ (reply : Outcome Override) error,
      reply.toExcept "override write" = .error error → fails error →
        ends [⟨.call (.upsertOverride scope value expiresAt), reply⟩] (.error error))
    (written : ∀ stored news outcome, Exchange.IsNews news → FailsOnlyBy fails outcome →
      ends [⟨.call (.upsertOverride scope value expiresAt), .answered stored⟩, news] outcome) :
    (layer.upsertOverride scope value expiresAt).Leaves fails ends := by
  refine leaves_call_then hangs rfl unwritten fun (stored : Override) => ?_
  refine leaves_bind (leaves_bind (leaves_ask fun _ _ => leaves_invalidate hangs
    fun news outcome isNews failing => ?_))
  cases outcome with
  | ok done => exact leaves_pure (written stored news (.ok stored) isNews (failsOnlyBy_ok _))
  | error error =>
      exact written stored news (.error error) isNews (failsOnlyBy_error (failing error rfl))

/-- Clearing an override leaves the write, and its news where it was applied. -/
theorem leaves_clearOverride {ends : List Exchange → Except ServiceError Unit → Prop}
    (unwritten : ∀ (reply : Outcome Unit) error,
      reply.toExcept "override delete" = .error error → fails error →
        ends [⟨.call (.clearOverride scope), reply⟩] (.error error))
    (written : ∀ news outcome, Exchange.IsNews news → FailsOnlyBy fails outcome →
      ends [⟨.call (.clearOverride scope), .answered ()⟩, news] outcome) :
    (layer.clearOverride scope).Leaves fails ends := by
  refine leaves_call_then hangs rfl unwritten fun _ => ?_
  exact leaves_bind (leaves_ask fun _ _ => leaves_invalidate hangs written)

omit hangs in
/-- A sweep leaves nothing. -/
theorem leaves_sweep {limit : Nat} {ends : List Exchange → Except ServiceError Nat → Prop}
    (ended : ∀ outcome, FailsOnlyBy fails outcome → ends [] outcome) :
    (sweep now limit).Leaves fails ends := by
  refine leaves_bind (leaves_ask fun (listed : Except ServiceError (List Override)) failing => ?_)
  refine leaves_bind (leaves_known ?_)
  cases listed with
  | error error => exact ended _ (failsOnlyBy_error (failing error rfl))
  | ok dead =>
      dsimp only
      split
      · exact leaves_pure (ended _ (failsOnlyBy_ok 0))
      · refine leaves_bind (leaves_ask fun (removed : Except ServiceError Nat) failing =>
          leaves_known (ended removed ?_))
        cases removed with
        | ok count => exact failsOnlyBy_ok count
        | error error => exact failsOnlyBy_error (failing error rfl)

end Layer

end Switchboard
