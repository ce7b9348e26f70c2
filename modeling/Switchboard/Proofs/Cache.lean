import Switchboard.Cache

namespace Switchboard.Cache

/-!
# Contents of a cache

What a cache holds after an operation: reading, making room and the passing of time only
ever lose entries, and no entry that stays gets another text or another deadline.
Dropping a key loses its entry, and setting one brings nothing but the entry that was
set.
-/

/-- The text of a key, expired or not. -/
def text? (cache : Cache) (key : String) : Option String :=
  (cache.find? key).map CacheEntry.value

/--
Every entry of the later cache was in the earlier one, with its text and its deadline; it
may have been used meanwhile.
-/
def Ages (before after : Cache) : Prop :=
  ∀ key entry, after.find? key = some entry →
    ∃ old, before.find? key = some old ∧ old.value = entry.value ∧ old.expiresAt = entry.expiresAt

theorem Ages.refl (cache : Cache) : Ages cache cache :=
  fun _ entry held => ⟨entry, held, rfl, rfl⟩

theorem Ages.trans {first second third : Cache}
    (before : Ages first second)
    (after : Ages second third) :
    Ages first third := by
  intro key entry held
  obtain ⟨middle, middleHeld, middleValue, middleDeadline⟩ := after key entry held
  obtain ⟨old, oldHeld, oldValue, oldDeadline⟩ := before key middle middleHeld
  exact ⟨old, oldHeld, oldValue.trans middleValue, oldDeadline.trans middleDeadline⟩

/-- Every text of the later cache was in the earlier one. -/
def Loses (before after : Cache) : Prop :=
  ∀ key text, after.text? key = some text → before.text? key = some text

theorem Loses.refl (cache : Cache) : Loses cache cache :=
  fun _ _ held => held

/-- A cache that ages loses texts at most. -/
theorem Ages.loses {before after : Cache} (ages : Ages before after) : Loses before after := by
  intro key text held
  obtain ⟨entry, found, rfl⟩ := Option.map_eq_some_iff.mp held
  obtain ⟨old, oldHeld, value, _⟩ := ages key entry found
  exact Option.map_eq_some_iff.mpr ⟨old, oldHeld, value⟩

theorem find_erase_self (cache : Cache) (key : String) : (cache.erase key).find? key = none := by
  refine List.lookup_eq_none_iff.mpr fun entry member => ?_
  have kept : entry.1 ≠ key := bne_iff_ne.mp (List.mem_filter.mp member).2
  exact bne_iff_ne.mpr kept.symm

theorem find_erase_other {key other : String} (cache : Cache) (different : other ≠ key) :
    (cache.erase key).find? other = cache.find? other := by
  unfold find? erase
  induction cache.entries with
  | nil => rfl
  | cons entry rest inductionHypothesis =>
      rcases entry with ⟨here, entry⟩
      by_cases dropped : here = key
      · subst dropped
        have notHere : (other == here) = false := beq_eq_false_iff_ne.mpr different
        simpa [List.lookup_cons, notHere] using inductionHypothesis
      · by_cases isHere : other = here
        · simp [dropped, isHere]
        · have notHere : (other == here) = false := beq_eq_false_iff_ne.mpr isHere
          simpa [List.lookup_cons, dropped, notHere] using inductionHypothesis

theorem find_put_other {key other : String} (cache : Cache) (entry : CacheEntry)
    (different : other ≠ key) :
    (cache.put key entry).find? other = cache.find? other := by
  have notHere : (other == key) = false := beq_eq_false_iff_ne.mpr different
  have skipped : (cache.put key entry).find? other = (cache.erase key).find? other := by
    simp only [find?, put, List.lookup_cons, notHere]
  rw [skipped, find_erase_other cache different]

theorem text_erase_self (cache : Cache) (key : String) : (cache.erase key).text? key = none := by
  unfold text?
  rw [find_erase_self, Option.map_none]

/-- Dropping a key leaves the other entries. -/
theorem ages_erase (cache : Cache) (key : String) : Ages cache (cache.erase key) := by
  intro other entry held
  by_cases here : other = key
  · subst here
    rw [find_erase_self] at held
    cases held
  · rw [find_erase_other cache here] at held
    exact ⟨entry, held, rfl, rfl⟩

/-- Making room drops one entry at most. -/
theorem ages_makeRoom (cache : Cache) (key : String) : Ages cache (cache.makeRoom key) := by
  unfold makeRoom evict
  split
  · split
    · exact .refl cache
    · exact ages_erase cache _
  · exact .refl cache

/-- Reading drops what is expired and marks what is used. -/
theorem ages_get (cache : Cache) (key : String) (now : Nat) :
    Ages cache (cache.get key now).2 := by
  unfold get
  cases found : cache.find? key with
  | none => exact .refl cache
  | some entry =>
      by_cases live : entry.isLive now = true
      · simp only [live, if_true]
        intro other used held
        by_cases here : other = key
        · subst here
          rw [find_put_self] at held
          cases held
          exact ⟨entry, found, rfl, rfl⟩
        · rw [find_put_other cache _ here] at held
          exact ⟨used, held, rfl, rfl⟩
      · simp only [live, Bool.false_eq_true, if_false]
        exact ages_erase cache key

/-- Setting a key brings its entry, and the others age. -/
theorem find_set {cache : Cache} {key other value : String} {lifetime now : Nat}
    {entry : CacheEntry}
    (held : (cache.set key value lifetime now).find? other = some entry) :
    (other = key ∧ entry = ⟨value, now + lifetime, now⟩) ∨
      ∃ old, cache.find? other = some old ∧ old.value = entry.value ∧
        old.expiresAt = entry.expiresAt := by
  unfold set at held
  by_cases here : other = key
  · subst here
    rw [find_put_self] at held
    cases held
    exact .inl ⟨rfl, rfl⟩
  · rw [find_put_other _ _ here] at held
    exact .inr (ages_makeRoom cache key other entry held)

/-- Dropping a key loses its text. -/
theorem loses_erase (cache : Cache) (key : String) : Loses cache (cache.erase key) :=
  (ages_erase cache key).loses

/-- Reading loses what is expired. -/
theorem loses_get (cache : Cache) (key : String) (now : Nat) :
    Loses cache (cache.get key now).2 :=
  (ages_get cache key now).loses

/-- What is read is an entry that still counts. -/
theorem live_of_get {cache : Cache} {key text : String} {now : Nat}
    (given : (cache.get key now).1 = some text) :
    ∃ entry, cache.find? key = some entry ∧ entry.value = text ∧ now < entry.expiresAt := by
  unfold get at given
  cases found : cache.find? key with
  | none =>
      rw [found] at given
      cases given
  | some entry =>
      simp only [found] at given
      split at given
      · rename_i live
        exact ⟨entry, rfl, Option.some.inj given, of_decide_eq_true live⟩
      · cases given

/-- A reader is given the text of an entry that still counts. -/
theorem given_eq (cache : Cache) (key : String) (now : Nat) :
    (cache.get key now).1 = (cache.find? key).bind fun entry =>
      if entry.isLive now then some entry.value else none := by
  unfold get
  cases cache.find? key with
  | none => rfl
  | some entry =>
      simp only [Option.bind_some]
      split
      · rfl
      · rfl

/-- Dropping a key takes nothing from the readers of others. -/
theorem given_erase_other {key other : String} (cache : Cache) (different : other ≠ key)
    (now : Nat) :
    ((cache.erase key).get other now).1 = (cache.get other now).1 := by
  rw [given_eq, given_eq, find_erase_other cache different]

/-- Reading takes nothing from later readers: what it drops would not count for them. -/
theorem given_get (cache : Cache) (key other : String) {now later : Nat} (ordered : now ≤ later) :
    ((cache.get key now).2.get other later).1 = (cache.get other later).1 := by
  rw [given_eq, given_eq]
  unfold get
  cases found : cache.find? key with
  | none => rfl
  | some entry =>
      by_cases live : entry.isLive now = true
      · simp only [live, if_true]
        by_cases here : other = key
        · subst here
          rw [find_put_self, found]
          rfl
        · rw [find_put_other cache _ here]
      · simp only [live, Bool.false_eq_true, if_false]
        by_cases here : other = key
        · subst here
          have gone : ¬entry.isLive later = true := by
            simp only [CacheEntry.isLive, decide_eq_true_eq] at live ⊢
            omega
          rw [find_erase_self, found, Option.bind_some, if_neg gone]
          rfl
        · rw [find_erase_other cache here]

/-- What is read is the text of the key. -/
theorem text_of_get {cache : Cache} {key text : String} {now : Nat}
    (given : (cache.get key now).1 = some text) :
    cache.text? key = some text := by
  obtain ⟨entry, found, value, _⟩ := live_of_get given
  exact Option.map_eq_some_iff.mpr ⟨entry, found, value⟩

theorem text_set_self (cache : Cache) (key value : String) (lifetime now : Nat) :
    (cache.set key value lifetime now).text? key = some value := by
  unfold text? set
  rw [find_put_self, Option.map_some]

/-- Setting a key loses what made room. -/
theorem text_set_other {cache : Cache} {key other value text : String} {lifetime now : Nat}
    (different : other ≠ key)
    (held : (cache.set key value lifetime now).text? other = some text) :
    cache.text? other = some text := by
  refine (ages_makeRoom cache key).loses other text ?_
  unfold text? set at *
  rwa [find_put_other _ _ different] at held

end Switchboard.Cache
