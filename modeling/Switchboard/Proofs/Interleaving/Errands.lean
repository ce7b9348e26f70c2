import Switchboard.Layer
import Switchboard.Proofs.Layer.Histories
import Switchboard.Proofs.Layer.Performing

namespace Switchboard

/-!
# Reading and writing a flag, seen from within

What a read or a write of a flag did by itself when it ends: a read answers with the
entry that it could read, or else with the reply of the store, and caches nothing but
that reply; a write that succeeded was applied and dropped the entry.
-/

/-- What a caller asks of the layer. -/
inductive Errand where
  | getFlag (environment key : String)
  | writeFlag (write : FlagWrite) (expected : Option Int64)
  deriving DecidableEq, Repr

/-- The operation of an errand, which gives a flag. -/
def Errand.operation (layer : Layer) : Errand → Operation (Option Flag)
  | getFlag environment key => layer.getFlag environment key
  | writeFlag write expected => do
      let flag ← layer.writeFlag write expected
      return some flag

/-- What a read of a flag may do. -/
structure ReadsFlag
    (environment key : String)
    (past : List Exchange)
    (outcome : Except ServiceError (Option Flag)) : Prop where
  /-- The entry that was found is the answer, if it can be read. -/
  hit :
    ∀ text flag,
      ⟨.call (.cacheGet (flagCacheKey environment key)), .answered (some text)⟩ ∈ past →
        Wire.decode? text = some flag → outcome = .ok (some flag)
  /-- Otherwise the store was asked. -/
  miss :
    (∀ text (flag : Flag),
      ⟨.call (.cacheGet (flagCacheKey environment key)), .answered (some text)⟩ ∈ past →
        Wire.decode? text ≠ some flag) →
    ∃ reply, ⟨.call (.readFlag environment key), reply⟩ ∈ past ∧
      ∀ found, reply = .answered found → outcome = .ok found

/-- What a write of a flag did when it succeeded. -/
def WritesFlag
    (write : FlagWrite)
    (expected : Option Int64)
    (past : List Exchange)
    (outcome : Except ServiceError (Option Flag)) : Prop :=
  ∀ found, outcome = .ok found →
    ∃ flag, found = some flag ∧
      ⟨.call (.applyFlagWrite write expected), .answered (some flag)⟩ ∈ past ∧
        ⟨.call (.cacheDelete (flagCacheKey flag.environment flag.key)), .answered ()⟩ ∈ past

/-- What errands do: of all of them only a read fills the cache, with what the store gave. -/
def Errand.conduct : Errand → Conduct (Except ServiceError (Option Flag))
  | getFlag environment key => {
      asks := fun past request => ∀ cacheKey text lifetime,
        request = .call (.cacheSet cacheKey text lifetime) →
          cacheKey = flagCacheKey environment key ∧
            ∃ flag, ⟨.call (.readFlag environment key), .answered (some flag)⟩ ∈ past ∧
              text = Wire.encode flag
      ends := ReadsFlag environment key }
  | writeFlag write expected => {
      asks := fun _ request => ∀ cacheKey text lifetime,
        request ≠ .call (.cacheSet cacheKey text lifetime)
      ends := WritesFlag write expected }

/-- The exchanges of a program that went on without another lookup. -/
inductive GoesOn (past : List Exchange) : List Exchange → Prop where
  | stays : GoesOn past past
  | further {later : List Exchange} (exchange : Exchange) :
      GoesOn past later →
      (∀ cacheKey, exchange.request ≠ .call (.cacheGet cacheKey)) →
      GoesOn past (later ++ [exchange])

namespace GoesOn

variable {past later last : List Exchange}

theorem trans (before : GoesOn past later) (after : GoesOn later last) : GoesOn past last := by
  induction after with
  | stays => exact before
  | further exchange _ quiet inductionHypothesis =>
      exact .further exchange inductionHypothesis quiet

theorem mem (goesOn : GoesOn past later) {exchange : Exchange} (member : exchange ∈ past) :
    exchange ∈ later := by
  induction goesOn with
  | stays => exact member
  | further other _ _ inductionHypothesis => exact List.mem_append_left _ inductionHypothesis

/-- All lookups were made before. -/
theorem lookup_mem (goesOn : GoesOn past later)
    {cacheKey : String} {reply : Outcome (Option String)}
    (member : ⟨.call (.cacheGet cacheKey), reply⟩ ∈ later) :
    ⟨.call (.cacheGet cacheKey), reply⟩ ∈ past := by
  induction goesOn with
  | stays => exact member
  | further other _ quiet inductionHypothesis =>
      rcases List.mem_append.mp member with before | here
      · exact inductionHypothesis before
      · have same := List.mem_singleton.mp here
        exact absurd (congrArg Exchange.request same).symm (quiet cacheKey)

end GoesOn

/-- A request that does not fill the cache. -/
def IsHarmless (request : Request) : Prop :=
  ∀ cacheKey text lifetime, request ≠ .call (.cacheSet cacheKey text lifetime)

/-- A conduct that forbids nothing but to fill the cache. -/
def Conduct.IsLenient (conduct : Conduct α) : Prop :=
  ∀ past request, IsHarmless request → conduct.asks past request

theorem Conduct.IsLenient.ending {conduct : Conduct α} (lenient : conduct.IsLenient)
    (ends : List Exchange → β → Prop) :
    (conduct.ending ends).IsLenient :=
  lenient

namespace Layer

variable {past : List Exchange}

theorem keeps_harmless_call {call : Call} {conduct : Conduct (Except ServiceError call.Answer)}
    (lenient : conduct.IsLenient)
    (harmless : IsHarmless (.call call))
    (ends : ∀ (reply : Outcome call.Answer) later,
      GoesOn (past ++ [⟨.call call, reply⟩]) later →
        conduct.ends later (reply.toExcept call.operation)) :
    (Operation.call call).Keeps conduct past := by
  refine Operation.keeps_call (lenient _ _ harmless) ?_ ?_ ?_ ?_
  · intro _ _ _
    exact lenient _ _ fun _ _ _ => by simp
  · intro value
    exact ends (.answered value) _ .stays
  · intro error
    exact ends (.failed error) _ .stays
  · exact ends .timedOut _ (.further _ .stays fun _ => by simp)

theorem keeps_countLookup {kind : EntryKind} {outcome : LookupOutcome}
    {conduct : Conduct (Except ServiceError Unit)}
    (lenient : conduct.IsLenient)
    (ends : ∀ later, GoesOn past later → conduct.ends later (.ok ())) :
    (countLookup kind outcome).Keeps conduct past := by
  refine Operation.keeps_count ?_ ?_
  · exact lenient _ _ fun _ _ _ => by simp
  · exact ends _ (.further _ .stays fun _ => by simp)

theorem keeps_evict {cacheKey : String} {conduct : Conduct (Except ServiceError Unit)}
    (lenient : conduct.IsLenient)
    (ends : ∀ later, GoesOn past later → conduct.ends later (.ok ())) :
    (evict cacheKey).Keeps conduct past := by
  refine Operation.keeps_bind (Operation.keeps_attempt (keeps_harmless_call lenient ?_ ?_))
  · simp [IsHarmless]
  · intro reply later goesOn
    have dropped : GoesOn past (past ++ [⟨.call (.cacheDelete cacheKey), reply⟩]) :=
      .further _ .stays fun _ => by simp
    exact Operation.keeps_pure (ends later (dropped.trans goesOn))

/-- What a lookup finds. -/
def readable (α : Type) [Wire α] : Outcome (Option String) → Option α
  | .answered (some text) => Wire.decode? text
  | _ => none

/-- A lookup is one exchange with the cache, and finds what can be read of its reply. -/
theorem keeps_cached {α : Type} [Wire α] {kind : EntryKind} {cacheKey : String}
    {conduct : Conduct (Except ServiceError (Option α))}
    (lenient : conduct.IsLenient)
    (ends : ∀ reply later,
      GoesOn (past ++ [⟨.call (.cacheGet cacheKey), reply⟩]) later →
        conduct.ends later (.ok (readable α reply))) :
    (cached α kind cacheKey).Keeps conduct past := by
  refine Operation.keeps_bind (Operation.keeps_attempt (keeps_harmless_call lenient ?_ ?_))
  · simp [IsHarmless]
  · intro reply later looked
    cases reply with
    | failed error =>
        exact Operation.keeps_bind (keeps_countLookup lenient fun last counted =>
          ends (.failed error) last (looked.trans counted))
    | timedOut =>
        exact Operation.keeps_bind (keeps_countLookup lenient fun last counted =>
          ends .timedOut last (looked.trans counted))
    | answered text? =>
        cases text? with
        | none =>
            exact Operation.keeps_bind (keeps_countLookup lenient fun last counted =>
              ends (.answered none) last (looked.trans counted))
        | some text =>
            have found := ends (.answered (some text))
            dsimp only [Conduct.ending, Outcome.toExcept]
            cases decoded : Wire.decode? (α := α) text with
            | some value =>
                simp only [readable, decoded] at found
                exact Operation.keeps_bind (keeps_countLookup lenient fun last counted =>
                  found last (looked.trans counted))
            | none =>
                simp only [readable, decoded] at found
                refine Operation.keeps_bind (keeps_countLookup lenient fun middle counted => ?_)
                exact Operation.keeps_bind (keeps_evict lenient fun last evicted =>
                  found last (looked.trans (counted.trans evicted)))

theorem keeps_populate {α : Type} [Wire α] {layer : Layer} {cacheKey : String} {value : α}
    {conduct : Conduct (Except ServiceError Unit)}
    (lenient : conduct.IsLenient)
    (asks : conduct.asks past (.call (.cacheSet cacheKey (Wire.encode value) layer.lifetime)))
    (ends : ∀ later, GoesOn past later → conduct.ends later (.ok ())) :
    (layer.populate cacheKey value).Keeps conduct past := by
  refine Operation.keeps_bind (Operation.keeps_attempt (Operation.keeps_call asks ?_ ?_ ?_ ?_))
  · exact fun _ _ _ => lenient _ _ fun _ _ _ => by simp
  · exact fun answer => ends _ (.further _ .stays fun _ => by simp)
  · exact fun error => ends _ (.further _ .stays fun _ => by simp)
  · exact ends _ (.further _ (.further _ .stays fun _ => by simp) fun _ => by simp)

/-- Invalidation succeeds only if the entry was dropped. -/
theorem keeps_invalidate {layer : Layer} {cacheKey : String} {event : Invalidation}
    {conduct : Conduct (Except ServiceError Unit)}
    (lenient : conduct.IsLenient)
    (ends : ∀ outcome later, GoesOn past later →
      (outcome = .ok () → ⟨.call (.cacheDelete cacheKey), .answered ()⟩ ∈ later) →
        conduct.ends later outcome) :
    (layer.invalidate cacheKey event).Keeps conduct past := by
  refine Operation.keeps_bind (Operation.keeps_attempt (keeps_harmless_call lenient ?_ ?_))
  · simp [IsHarmless]
  · intro dropped middle dropping
    refine Operation.keeps_bind (Operation.keeps_attempt (keeps_harmless_call lenient ?_ ?_))
    · simp [IsHarmless]
    · intro told later telling
      have whole : GoesOn past later :=
        (GoesOn.further _ .stays fun _ => by simp).trans
          (dropping.trans ((GoesOn.further _ .stays fun _ => by simp).trans telling))
      have isDropped (last : List Exchange) (counting : GoesOn later last) :
          ⟨.call (.cacheDelete cacheKey), dropped⟩ ∈ last :=
        counting.mem (telling.mem (List.mem_append_left _
          (dropping.mem (List.mem_append_right _ (List.mem_singleton_self _)))))
      have finish (last : List Exchange) (counting : GoesOn later last) :
          conduct.ends last (dropped.toExcept (Call.cacheDelete cacheKey).operation) := by
        refine ends _ last (whole.trans counting) fun succeeded => ?_
        cases dropped with
        | answered value => exact isDropped last counting
        | failed error => cases succeeded
        | timedOut => cases succeeded
      have counted {counter : Counter} {next : Unit → Operation Unit}
          (continues : ∀ last, GoesOn later last → (next ()).Keeps conduct last) :
          (Operation.count counter >>= next).Keeps conduct later := by
        refine Operation.keeps_bind (Operation.keeps_count (lenient _ _ ?_) ?_)
        · simp [IsHarmless]
        · exact continues _ (.further ⟨.count counter 1, ()⟩ .stays fun _ => by simp)
      dsimp only [Conduct.ending]
      generalize dropped.toExcept (Call.cacheDelete cacheKey).operation = outcome at finish ⊢
      generalize told.toExcept (Call.publish layer.topic event).operation = published
      cases outcome with
      | ok _ =>
          have finishes (last : List Exchange) (counting : GoesOn later last) :
              (pure () : Operation Unit).Keeps conduct last :=
            Operation.keeps_pure (finish last counting)
          cases published with
          | ok _ => exact counted finishes
          | error _ => exact counted finishes
      | error error =>
          have finishes (last : List Exchange) (counting : GoesOn later last) :
              (throw error : Operation Unit).Keeps conduct last :=
            Operation.keeps_throw (finish last counting)
          cases published with
          | ok _ => exact counted finishes
          | error _ => exact counted finishes

end Layer

/-! ## Errands -/

variable {environment key : String} {past later : List Exchange}

/-- A read whose entry could be read answers with it. -/
theorem ReadsFlag.of_hit {reply : Outcome (Option String)} {flag : Flag}
    (found : Layer.readable Flag reply = some flag)
    (goesOn : GoesOn [⟨.call (.cacheGet (flagCacheKey environment key)), reply⟩] past) :
    ReadsFlag environment key past (.ok (some flag)) where
  hit text other member decoded := by
    have looked := List.mem_singleton.mp (goesOn.lookup_mem member)
    simp only [Exchange.mk.injEq, heq_eq_eq, true_and] at looked
    rw [← looked] at found
    exact congrArg Except.ok (found.symm.trans decoded)
  miss unread := by
    cases reply with
    | failed error => cases found
    | timedOut => cases found
    | answered text? =>
        cases text? with
        | none => cases found
        | some text =>
            exact absurd found (unread text flag (goesOn.mem (List.mem_singleton_self _)))

/-- A read without such an entry answers as the store does. -/
theorem ReadsFlag.of_miss {looked : Outcome (Option String)} {reply : Outcome (Option Flag)}
    (notFound : Layer.readable Flag looked = none)
    (asked : GoesOn [⟨.call (.cacheGet (flagCacheKey environment key)), looked⟩] past)
    (goesOn : GoesOn (past ++ [⟨.call (.readFlag environment key), reply⟩]) later) :
    ReadsFlag environment key later (reply.toExcept "flag lookup") where
  hit text flag member decoded := by
    have whole := asked.trans ((GoesOn.further _ .stays fun _ => by simp).trans goesOn)
    have here := List.mem_singleton.mp (whole.lookup_mem member)
    simp only [Exchange.mk.injEq, heq_eq_eq, true_and] at here
    rw [← here] at notFound
    cases notFound.symm.trans decoded
  miss _ := by
    refine ⟨reply, goesOn.mem (List.mem_append_right _ (List.mem_singleton_self _)), ?_⟩
    rintro found rfl
    rfl

theorem Errand.isLenient_conduct (errand : Errand) : errand.conduct.IsLenient := by
  cases errand with
  | getFlag environment key =>
      exact fun past request harmless cacheKey text lifetime same =>
        absurd same (harmless cacheKey text lifetime)
  | writeFlag write expected => exact fun past request harmless => harmless

private theorem keeps_getFlag (layer : Layer) (environment key : String) :
    (layer.getFlag environment key).Keeps (Errand.getFlag environment key).conduct [] := by
  have lenient := (Errand.getFlag environment key).isLenient_conduct
  refine Operation.keeps_bind (Layer.keeps_cached lenient fun looked past asked => ?_)
  cases found : Layer.readable Flag looked with
  | some flag => exact Operation.keeps_pure (.of_hit found asked)
  | none =>
      refine Operation.keeps_bind (Layer.keeps_harmless_call (lenient.ending _) ?_ ?_)
      · simp [IsHarmless]
      · intro reply later goesOn
        have answers (last : List Exchange) (filled : GoesOn later last) :
            ReadsFlag environment key last (reply.toExcept "flag lookup") :=
          .of_miss found asked (goesOn.trans filled)
        cases reply with
        | failed error => exact answers later .stays
        | timedOut => exact answers later .stays
        | answered flag? =>
            cases flag? with
            | none => exact Operation.keeps_pure (answers later .stays)
            | some flag =>
                refine Operation.keeps_bind (Layer.keeps_populate lenient ?_ answers)
                intro cacheKey text lifetime same
                cases same
                exact ⟨rfl, flag,
                  goesOn.mem (List.mem_append_right _ (List.mem_singleton_self _)), rfl⟩

private theorem keeps_rejectWrite {write : FlagWrite} {expected : Option Int64}
    {conduct : Conduct (Except ServiceError Flag)}
    (lenient : conduct.IsLenient)
    (ends : ∀ error later, conduct.ends later (.error error)) :
    (Layer.rejectWrite write expected).Keeps conduct past := by
  refine Operation.keeps_bind (Layer.keeps_harmless_call (lenient.ending _) ?_ ?_)
  · simp [IsHarmless]
  · intro reply later _
    cases reply with
    | failed error => exact ends error later
    | timedOut => exact ends _ later
    | answered actual =>
        refine Operation.keeps_bind (Operation.keeps_count (lenient _ _ ?_) ?_)
        · simp [IsHarmless]
        · exact Operation.keeps_throw (ends _ _)

private theorem keeps_writeFlag (layer : Layer) (write : FlagWrite) (expected : Option Int64) :
    ((Errand.writeFlag write expected).operation layer).Keeps
      (Errand.writeFlag write expected).conduct [] := by
  have lenient := (Errand.writeFlag write expected).isLenient_conduct
  have fails (error : ServiceError) (later : List Exchange) :
      WritesFlag write expected later (.error error) := by
    intro found succeeded
    cases succeeded
  refine Operation.keeps_bind (Operation.keeps_bind (Layer.keeps_harmless_call
    ((lenient.ending _).ending _) ?_ ?_))
  · simp [IsHarmless]
  · intro reply past applying
    cases reply with
    | failed error => exact fails error past
    | timedOut => exact fails _ past
    | answered written =>
        cases written with
        | none => exact keeps_rejectWrite (lenient.ending _) fails
        | some flag =>
            refine Operation.keeps_bind (Operation.keeps_ask .readClock ?_ fun now => ?_)
            · exact lenient past _ (by simp [IsHarmless])
            · refine Operation.keeps_bind (Layer.keeps_invalidate
                ((lenient.ending _).ending _) fun outcome later invalidating dropped => ?_)
              cases outcome with
              | error error => exact fails error later
              | ok _ =>
                  intro found succeeded
                  cases succeeded
                  have applied := applying.mem
                    (List.mem_append_right [] (List.mem_singleton_self _))
                  exact ⟨flag, rfl, invalidating.mem (List.mem_append_left _ applied),
                    dropped rfl⟩

/-- Every errand keeps to its conduct. -/
theorem Errand.keeps_operation (layer : Layer) (errand : Errand) :
    (errand.operation layer).Keeps errand.conduct [] := by
  cases errand with
  | getFlag environment key => exact keeps_getFlag layer environment key
  | writeFlag write expected => exact keeps_writeFlag layer write expected

end Switchboard
