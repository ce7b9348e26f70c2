import Switchboard.Proofs.Layer.Backing

namespace Switchboard.Backing

open Surroundings

/-!
# Reads through the cache

A read gives what the store has as long as every readable entry of its key does, no
matter what else the cache may give, lose or refuse.  All that it leaves behind is an
entry that was just read from the store.
-/

variable {State : Type} {backing : Backing State} {before state : State}

private theorem perform_countLookup
    (kind : EntryKind)
    (outcome : LookupOutcome)
    (up : backing.isUp state) :
    ∃ later,
      Operation.perform backing.handle (Layer.countLookup kind outcome) state = (.ok (), later) ∧
      backing.Quiet state later :=
  ⟨_, Operation.perform_count _ _ _, backing.count _ _ _ up⟩

/-- Dropping an entry does not fail and adds nothing. -/
theorem perform_evict (cacheKey : String) (up : backing.isUp state) :
    ∃ later, Operation.perform backing.handle (Layer.evict cacheKey) state = (.ok (), later) ∧
      backing.Quiet state later := by
  have quiet := leaves_of_call (backing.cacheDelete state cacheKey up).1
  refine ⟨_, ?_, quiet⟩
  exact Operation.perform_bind_ok _ _ (Operation.perform_attempt _ _ _)

private theorem perform_cacheGet (cacheKey : String) (up : backing.isUp state) :
    ∃ (answer : Except ServiceError (Option String)) (later : State),
      Operation.perform backing.handle (Operation.call (.cacheGet cacheKey)) state =
          (answer, later) ∧
        backing.Quiet state later ∧
          ∀ text, answer = .ok (some text) → backing.mayGive state cacheKey text := by
  obtain ⟨quiet, given⟩ := backing.cacheGet state cacheKey up
  refine ⟨(Operation.perform backing.handle (Operation.call (.cacheGet cacheKey)) state).1,
    (Operation.perform backing.handle (Operation.call (.cacheGet cacheKey)) state).2, rfl,
    leaves_of_call quiet, ?_⟩
  intro text answered
  apply given
  rw [outcome_of_call] at answered
  cases reply : (backing.handle (.call (.cacheGet cacheKey)) state).1 with
  | answered value =>
      rw [reply] at answered
      exact congrArg Outcome.answered (Except.ok.inj answered)
  | failed error =>
      rw [reply] at answered
      cases answered
  | timedOut =>
      rw [reply] at answered
      cases answered

/-- A lookup does not fail, adds nothing, and gives only what a text of the cache says. -/
theorem perform_cached (α : Type) [Wire α] (kind : EntryKind) (cacheKey : String)
    (up : backing.isUp state) :
    ∃ (found : Option α) (later : State),
      Operation.perform backing.handle (Layer.cached α kind cacheKey) state = (.ok found, later) ∧
        backing.Quiet state later ∧
          ∀ value, found = some value →
            ∃ text, backing.mayGive state cacheKey text ∧ Wire.decode? text = some value := by
  obtain ⟨answer, later, ended, quiet, given⟩ := perform_cacheGet cacheKey up
  have attempted := Operation.perform_attempt backing.handle (Operation.call (.cacheGet cacheKey))
    state
  rw [ended] at attempted
  unfold Layer.cached
  rw [Operation.perform_bind_ok _ _ attempted]
  cases answer with
  | error error =>
      obtain ⟨counted, counts, quietCount⟩ := perform_countLookup kind .error quiet.isUp
      refine ⟨none, counted, ?_, quiet_trans quiet quietCount, by simp⟩
      exact Operation.perform_bind_ok _ _ counts
  | ok text? =>
      cases text? with
      | none =>
          obtain ⟨counted, counts, quietCount⟩ := perform_countLookup kind .miss quiet.isUp
          refine ⟨none, counted, ?_, quiet_trans quiet quietCount, by simp⟩
          exact Operation.perform_bind_ok _ _ counts
      | some text =>
          have isGiven : backing.mayGive state cacheKey text := given text rfl
          cases decoded : Wire.decode? (α := α) text with
          | some value =>
              obtain ⟨counted, counts, quietCount⟩ := perform_countLookup kind .hit quiet.isUp
              refine ⟨some value, counted, ?_, quiet_trans quiet quietCount, ?_⟩
              · simp only [decoded]
                exact Operation.perform_bind_ok _ _ counts
              · intro other same
                exact ⟨text, isGiven, decoded.trans same⟩
          | none =>
              obtain ⟨counted, counts, quietCount⟩ := perform_countLookup kind .error quiet.isUp
              obtain ⟨evicted, evicts, quietEvict⟩ := perform_evict cacheKey quietCount.isUp
              refine ⟨none, evicted, ?_, ?_, by simp⟩
              · simp only [decoded]
                rw [Operation.perform_bind_ok _ _ counts, Operation.perform_bind_ok _ _ evicts]
                rfl
              · exact quiet_trans quiet (quiet_trans quietCount quietEvict)

/-- Filling does not fail and adds one entry at most. -/
theorem perform_populate [Wire α] (layer : Layer) (cacheKey : String) (value : α)
    (up : backing.isUp state) :
    ∃ later,
      Operation.perform backing.handle (layer.populate cacheKey value) state = (.ok (), later) ∧
      backing.Fills cacheKey (Wire.encode value) state later := by
  have fills := backing.cacheSet state cacheKey (Wire.encode value) layer.lifetime up
  have counted := quiet_of_call fills.isUp
  refine ⟨_, Operation.perform_bind_ok _ _ (Operation.perform_attempt _ _ _), ?_⟩
  exact {
    isUp := counted.isUp
    frame := backing.frame_trans _ _ _ fills.frame counted.frame
    database := counted.database.trans fills.database
    entries := fun otherKey otherText given =>
      fills.entries otherKey otherText (counted.entries otherKey otherText given) }

private theorem perform_of_answer {asked : Call} {answer : Except ServiceError asked.Answer}
    (replied : (backing.handle (.call asked) state).1 = .ofExcept answer)
    (quiet : backing.Quiet state (backing.handle (.call asked) state).2) :
    ∃ later, Operation.perform backing.handle (Operation.call asked) state = (answer, later) ∧
      backing.Quiet state later := by
  refine ⟨_, Prod.ext ?_ rfl, leaves_of_call quiet⟩
  rw [outcome_of_call, replied, Outcome.toExcept_ofExcept]

/-- What the store was found to have is given, and cached if it is anything. -/
private theorem perform_fill [Wire α] (layer : Layer) {cacheKey : String}
    {read : Operation (Option α)} {next : Option α → Operation (Option α)}
    {found : Except ServiceError (Option α)} {asked : State}
    (asks : Operation.perform backing.handle read state = (found, asked))
    (quiet : backing.Quiet before asked)
    (ofNone : next none = return none)
    (ofSome : ∀ value, next (some value) = do
      layer.populate cacheKey value
      return some value) :
    ∃ later, Operation.perform backing.handle (read >>= next) state = (found, later) ∧
      (backing.Quiet before later ∨
        ∃ value, found = .ok (some value) ∧
          backing.Fills cacheKey (Wire.encode value) before later) := by
  cases found with
  | error error => exact ⟨asked, Operation.perform_bind_error _ _ asks, .inl quiet⟩
  | ok value? =>
      rw [Operation.perform_bind_ok _ _ asks]
      cases value? with
      | none => exact ⟨asked, congrArg (Operation.perform _ · asked) ofNone, .inl quiet⟩
      | some value =>
          obtain ⟨filled, populates, fills⟩ := perform_populate layer cacheKey value quiet.isUp
          refine ⟨filled, ?_, .inr ⟨value, rfl, fills_trans quiet fills⟩⟩
          rw [ofSome]
          exact Operation.perform_bind_ok _ _ populates

/--
What a read of a flag gives and leaves: the flag of the store where no readable entry
differs from it, and no new entry but that flag.
-/
theorem getFlag_spec (layer : Layer) (environment key : String) (up : backing.isUp state) :
    ∃ (found : Except ServiceError (Option Flag)) (later : State),
      Operation.perform backing.handle (layer.getFlag environment key) state = (found, later) ∧
        (backing.FlagIsFresh state environment key →
          found = (backing.database state).flags.read environment key) ∧
        (backing.Quiet state later ∨
          ∃ flag, (backing.database state).flags.read environment key = .ok (some flag) ∧
            backing.Fills (flagCacheKey environment key) (Wire.encode flag) state later) := by
  obtain ⟨cached?, looked, lookup, quietLookup, fromText⟩ :=
    perform_cached Flag .flag (flagCacheKey environment key) up
  unfold Layer.getFlag
  rw [Operation.perform_bind_ok _ _ lookup]
  cases cached? with
  | some flag =>
      obtain ⟨text, given, decoded⟩ := fromText flag rfl
      refine ⟨.ok (some flag), looked, rfl, ?_, .inl quietLookup⟩
      intro fresh
      exact (fresh text flag given decoded).symm
  | none =>
      obtain ⟨replied, quietRead⟩ := backing.readFlag looked environment key quietLookup.isUp
      obtain ⟨read, asks, quietAsk⟩ := perform_of_answer replied quietRead
      rw [quietLookup.database] at asks
      refine ⟨_, (perform_fill layer asks (quiet_trans quietLookup quietAsk) ?_ ?_).imp
        fun later fills => ⟨fills.1, fun _ => rfl, fills.2⟩⟩
      · rfl
      · exact fun _ => rfl

/--
What a read of an override at an instant gives and leaves: what the store finds where
no readable entry shows anything else, and no new entry but what was found.
-/
theorem getOverrideAt_spec (layer : Layer) (scope : Scope) (now : Instant)
    (up : backing.isUp state) :
    ∃ (found : Except ServiceError (Option OverrideValue)) (later : State),
      Operation.perform backing.handle (layer.getOverrideAt scope now) state = (found, later) ∧
        (backing.OverrideIsFresh state scope now →
          found = (backing.database state).overrides.find scope now) ∧
        (backing.Quiet state later ∨
          ∃ value, (backing.database state).overrides.find scope now = .ok (some value) ∧
            backing.Fills (overrideCacheKey scope) (Wire.encode value) state later) := by
  obtain ⟨cached?, looked, lookup, quietLookup, fromText⟩ :=
    perform_cached OverrideValue .override (overrideCacheKey scope) up
  unfold Layer.getOverrideAt
  rw [Operation.perform_bind_ok _ _ lookup]
  cases cached? with
  | some value =>
      obtain ⟨text, given, decoded⟩ := fromText value rfl
      by_cases active : value.isActive now = true
      · refine ⟨.ok (some value), looked, ?_, ?_, .inl quietLookup⟩
        · simp only [active, ↓reduceIte]
          rfl
        · intro fresh
          rw [fresh text value given decoded, if_pos active]
      · obtain ⟨evicted, evicts, quietEvict⟩ :=
          perform_evict (overrideCacheKey scope) quietLookup.isUp
        refine ⟨.ok none, evicted, ?_, ?_, .inl (quiet_trans quietLookup quietEvict)⟩
        · simp only [active]
          exact Operation.perform_bind_ok _ _ evicts
        · intro fresh
          rw [fresh text value given decoded, if_neg active]
  | none =>
      obtain ⟨replied, quietFind⟩ := backing.findOverride looked scope now quietLookup.isUp
      obtain ⟨read, asks, quietAsk⟩ := perform_of_answer replied quietFind
      rw [quietLookup.database] at asks
      refine ⟨_, (perform_fill layer asks (quiet_trans quietLookup quietAsk) ?_ ?_).imp
        fun later fills => ⟨fills.1, fun _ => rfl, fills.2⟩⟩
      · rfl
      · exact fun _ => rfl

/-- A read of an override asks for the instant first. -/
theorem getOverride_spec (layer : Layer) (scope : Scope) (up : backing.isUp state) :
    ∃ (found : Except ServiceError (Option OverrideValue)) (later : State),
      Operation.perform backing.handle (layer.getOverride scope) state = (found, later) ∧
        (backing.OverrideIsFresh state scope (backing.calendar state) →
          found = (backing.database state).overrides.find scope (backing.calendar state)) ∧
        (backing.Quiet state later ∨
          ∃ value,
            (backing.database state).overrides.find scope (backing.calendar state) =
                .ok (some value) ∧
              backing.Fills (overrideCacheKey scope) (Wire.encode value) state later) := by
  obtain ⟨shown, quietClock⟩ := backing.readClock state up
  obtain ⟨found, later, performs, gives, leaves⟩ :=
    getOverrideAt_spec layer scope (backing.calendar state) quietClock.isUp
  refine ⟨found, later, ?_, ?_, ?_⟩
  · unfold Layer.getOverride
    rw [Operation.perform_bind_ok _ _ (Operation.perform_ask _ _ _), shown]
    exact performs
  · intro fresh
    rw [gives, quietClock.database]
    intro text value given decoded
    rw [quietClock.database]
    exact fresh text value (quietClock.entries _ _ given) decoded
  · rw [quietClock.database] at leaves
    rcases leaves with quiet | ⟨value, seen, fills⟩
    · exact .inl (quiet_trans quietClock quiet)
    · exact .inr ⟨value, seen, fills_trans quietClock fills⟩

end Switchboard.Backing
