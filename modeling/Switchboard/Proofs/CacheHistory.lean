import Mathlib.Data.Finset.Card
import Mathlib.Data.List.Nodup
import Switchboard.Proofs.Cache

namespace Switchboard

/-!
# Histories of a cache

What a cache answers depends on what was asked of it before.  The value of a key stands from
the call that set it until its deadline, unless the key is dropped; and it is there while
fewer other keys were used since its own last use than the cache has room for.  Entries that
are expired take room like all others until they are dropped.
-/

/-- What can be asked of a cache. -/
inductive CacheCall where
  | get (key : String)
  | set (key value : String) (lifetime : Nat)
  | erase (key : String)
  | dropExpired
  deriving DecidableEq, Repr

/-- A call of a cache: when it was made, and the text that it gave. -/
structure CacheEvent where
  instant : Nat
  call : CacheCall
  answer : Option String
  deriving DecidableEq, Repr

namespace CacheEvent

/-- The key that was used: one that was set, or read and found. -/
def used? (event : CacheEvent) : Option String :=
  match event.call with
  | .get key => if event.answer.isSome then some key else none
  | .set key _ _ => some key
  | .erase _ => none
  | .dropExpired => none

end CacheEvent

namespace Cache

/-- Answer a call. -/
def answer (cache : Cache) (call : CacheCall) (now : Nat) : Option String × Cache :=
  match call with
  | .get key => cache.get key now
  | .set key value lifetime => (none, cache.set key value lifetime now)
  | .erase key => (none, cache.erase key)
  | .dropExpired => (none, cache.dropExpired now)

/-- All calls were made before an instant. -/
def Before (now : Nat) (events : List CacheEvent) : Prop :=
  ∀ event ∈ events, event.instant < now

instance (now : Nat) (events : List CacheEvent) : Decidable (Before now events) :=
  inferInstanceAs (Decidable (∀ event ∈ events, event.instant < now))

/-- What a new cache was asked, the last call first, and the cache after it. -/
inductive Ran (limit : Nat) : List CacheEvent → Cache → Prop where
  | start : Ran limit [] (.empty limit)
  | call {events : List CacheEvent} {cache : Cache} (call : CacheCall) (now : Nat)
      (later : Before now events) :
      Ran limit events cache →
        Ran limit (⟨now, call, (cache.answer call now).1⟩ :: events) (cache.answer call now).2

/-- The value that was last set for a key and not dropped since, and its deadline. -/
def standing (key : String) : List CacheEvent → Option (String × Nat)
  | [] => none
  | event :: earlier =>
      match event.call with
      | .set target value lifetime =>
          if target = key then some (value, event.instant + lifetime) else standing key earlier
      | .erase target => if target = key then none else standing key earlier
      | .get _ => standing key earlier
      | .dropExpired => standing key earlier

/-- The keys that were used since the last use of a key. -/
def usedSince (key : String) : List CacheEvent → Finset String
  | [] => ∅
  | event :: earlier =>
      match event.used? with
      | none => usedSince key earlier
      | some used => if used = key then ∅ else insert used (usedSince key earlier)

variable {cache : Cache} {key other : String} {entry : CacheEntry} {now limit : Nat}
  {event : CacheEvent} {events : List CacheEvent}

theorem usedSince_of_unused (unused : event.used? = none) (key : String) :
    usedSince key (event :: events) = usedSince key events := by
  rw [usedSince, unused]

theorem usedSince_of_other (used : event.used? = some other) (different : other ≠ key) :
    usedSince key (event :: events) = insert other (usedSince key events) := by
  rw [usedSince, used]
  exact if_neg different

/-- What was used since the last use of a key stays so as long as the key is not used. -/
theorem usedSince_subset (notUsed : event.used? ≠ some key) :
    usedSince key events ⊆ usedSince key (event :: events) := by
  cases used : event.used? with
  | none => rw [usedSince_of_unused used]
  | some other =>
      have different : other ≠ key := fun same => notUsed (same ▸ used)
      rw [usedSince_of_other used different]
      exact Finset.subset_insert _ _

/-! ## Keys -/

/-- The keys of all entries. -/
def keys (cache : Cache) : List String :=
  cache.entries.map Prod.fst

theorem mem_keys : key ∈ cache.keys ↔ ∃ entry, (key, entry) ∈ cache.entries := by
  simp [keys]

@[simp] theorem length_keys (cache : Cache) : cache.keys.length = cache.size :=
  List.length_map _

theorem find_eq_none_iff : cache.find? key = none ↔ key ∉ cache.keys := by
  rw [find?, List.lookup_eq_none_iff, mem_keys]
  constructor
  · rintro absent ⟨entry, member⟩
    exact bne_iff_ne.mp (absent _ member) rfl
  · rintro absent ⟨here, entry⟩ member
    exact bne_iff_ne.mpr fun same => absent ⟨entry, same ▸ member⟩

private theorem lookup_eq_some_iff {entries : List (String × CacheEntry)}
    (distinct : (entries.map Prod.fst).Nodup) :
    entries.lookup key = some entry ↔ (key, entry) ∈ entries := by
  induction entries with
  | nil => simp
  | cons first rest inductionHypothesis =>
      obtain ⟨here, stored⟩ := first
      obtain ⟨notLater, restDistinct⟩ := List.nodup_cons.mp distinct
      rw [List.lookup_cons, List.mem_cons, Prod.mk.injEq]
      by_cases isHere : key = here
      · subst isHere
        have absent : (key, entry) ∉ rest := fun member =>
          notLater (List.mem_map.mpr ⟨_, member, rfl⟩)
        simp [absent, eq_comm]
      · simp [beq_eq_false_iff_ne.mpr isHere, isHere, inductionHypothesis restDistinct]

/-- Where no key is there twice, the entry of a key is the one that is found. -/
theorem find_eq_some_iff (distinct : cache.keys.Nodup) :
    cache.find? key = some entry ↔ (key, entry) ∈ cache.entries :=
  lookup_eq_some_iff distinct

theorem mem_entries_erase :
    (other, entry) ∈ (cache.erase key).entries ↔
      (other, entry) ∈ cache.entries ∧ other ≠ key := by
  simp [erase]

theorem mem_entries_put {stored : CacheEntry} :
    (other, entry) ∈ (cache.put key stored).entries ↔
      other = key ∧ entry = stored ∨ (other, entry) ∈ cache.entries ∧ other ≠ key := by
  rw [put, List.mem_cons, mem_entries_erase, Prod.mk.injEq]

theorem keys_erase (distinct : cache.keys.Nodup) (key : String) :
    (cache.erase key).keys = cache.keys.erase key := by
  rw [distinct.erase_eq_filter, keys, keys, erase, List.filter_map]
  rfl

theorem keys_put (distinct : cache.keys.Nodup) (key : String) (entry : CacheEntry) :
    (cache.put key entry).keys = key :: cache.keys.erase key := by
  rw [← keys_erase distinct]
  rfl

/-- An entry takes no room beyond what its key had. -/
theorem size_put (distinct : cache.keys.Nodup) (key : String) (entry : CacheEntry) :
    (cache.put key entry).size = (if key ∈ cache.keys then cache.size else cache.size + 1) := by
  rw [← length_keys, keys_put distinct, List.length_cons, List.length_erase, length_keys]
  split
  · rename_i member
    have positive := List.length_pos_of_mem member
    rw [length_keys] at positive
    omega
  · rfl

/-! ## Room for a key -/

private theorem eq_nil_of_leastRecent {entries : List (String × CacheEntry)}
    (nothing : leastRecent? entries = none) :
    entries = [] := by
  cases entries with
  | nil => rfl
  | cons first rest =>
      unfold leastRecent? at nothing
      split at nothing
      · cases nothing
      · split at nothing
        · cases nothing
        · cases nothing

/-- The least recently used entry is there, and no other was last used before it. -/
theorem leastRecent_spec {entries : List (String × CacheEntry)} {victim : String × CacheEntry}
    (least : leastRecent? entries = some victim) :
    victim ∈ entries ∧ ∀ other ∈ entries, victim.2.lastUsed ≤ other.2.lastUsed := by
  induction entries generalizing victim with
  | nil => cases least
  | cons first rest inductionHypothesis =>
      unfold leastRecent? at least
      cases found : leastRecent? rest with
      | none =>
          rw [found] at least
          cases least
          simp [eq_nil_of_leastRecent found]
      | some oldest =>
          obtain ⟨member, older⟩ := inductionHypothesis found
          rw [found] at least
          simp only at least
          split at least
          · rename_i isLess
            cases least
            exact ⟨List.mem_cons_of_mem _ member,
              List.forall_mem_cons.mpr ⟨Nat.le_of_lt isLess, older⟩⟩
          · rename_i notLess
            cases least
            refine ⟨List.mem_cons_self, List.forall_mem_cons.mpr ⟨Nat.le_refl _, ?_⟩⟩
            exact fun other isOther => Nat.le_trans (Nat.le_of_not_lt notLess)
              (older other isOther)

/-- A cache makes no room where it has some, and gives up the least recently used entry else. -/
theorem makeRoom_cases (positive : 0 < cache.limit) (key : String) :
    (cache.makeRoom key = cache ∧ (key ∈ cache.keys ∨ cache.size < cache.limit)) ∨
      (key ∉ cache.keys ∧ cache.limit ≤ cache.size ∧
        ∃ victim entry, (victim, entry) ∈ cache.entries ∧
          (∀ other ∈ cache.entries, entry.lastUsed ≤ other.2.lastUsed) ∧
            cache.makeRoom key = cache.erase victim) := by
  unfold makeRoom
  by_cases isFull : (cache.find? key).isNone = true ∧ cache.limit ≤ cache.size
  · obtain ⟨absent, full⟩ := isFull
    rw [Option.isNone_iff_eq_none, find_eq_none_iff] at absent
    refine .inr ⟨absent, full, ?_⟩
    rw [if_pos (by simp [find_eq_none_iff.mpr absent, full]), evict]
    cases found : leastRecent? cache.entries with
    | none =>
        have noRoom : cache.size = 0 := congrArg List.length (eq_nil_of_leastRecent found)
        omega
    | some victim =>
        obtain ⟨member, least⟩ := leastRecent_spec found
        exact ⟨victim.1, victim.2, member, least, rfl⟩
  · refine .inl ⟨if_neg (by simpa using isFull), ?_⟩
    by_cases present : key ∈ cache.keys
    · exact .inl present
    · rw [← find_eq_none_iff] at present
      exact .inr (Nat.lt_of_not_le fun full => isFull ⟨by simp [present], full⟩)

/-! ## What entries tell of the history -/

/--
Every entry has the value and the deadline that stand, and was last used when some call was
made; what was used later than an entry was used since its last use.
-/
structure Follows (events : List CacheEvent) (cache : Cache) : Prop where
  distinct : cache.keys.Nodup
  standing : ∀ key entry, (key, entry) ∈ cache.entries →
    standing key events = some (entry.value, entry.expiresAt)
  past : ∀ key entry, (key, entry) ∈ cache.entries →
    ∃ event ∈ events, entry.lastUsed = event.instant
  recent : ∀ key entry other later, (key, entry) ∈ cache.entries →
    (other, later) ∈ cache.entries → other ≠ key → entry.lastUsed ≤ later.lastUsed →
      other ∈ usedSince key events

namespace Follows

theorem empty (limit : Nat) : Follows [] (.empty limit) where
  distinct := List.nodup_nil
  standing _ _ member := by cases member
  past _ _ member := by cases member
  recent _ _ _ _ member := by cases member

/-- A cache that lost entries follows what it followed. -/
theorem of_sublist {fewer : Cache} (follows : Follows events cache)
    (entries : fewer.entries.Sublist cache.entries) :
    Follows events fewer where
  distinct := follows.distinct.sublist (entries.map Prod.fst)
  standing key entry member := follows.standing key entry (entries.subset member)
  past key entry member := follows.past key entry (entries.subset member)
  recent key entry other later member laterMember :=
    follows.recent key entry other later (entries.subset member) (entries.subset laterMember)

/-- A call that uses no key and leaves what stands for the entries. -/
theorem unused (follows : Follows events cache) (notUsed : event.used? = none)
    (stands : ∀ key ∈ cache.keys, Cache.standing key (event :: events) =
      Cache.standing key events) :
    Follows (event :: events) cache where
  distinct := follows.distinct
  standing key entry member := by
    rw [stands key (mem_keys.mpr ⟨entry, member⟩)]
    exact follows.standing key entry member
  past key entry member := by
    obtain ⟨earlier, isEarlier, used⟩ := follows.past key entry member
    exact ⟨earlier, List.mem_cons_of_mem _ isEarlier, used⟩
  recent key entry other later member laterMember different ordered :=
    usedSince_subset (by simp [notUsed])
      (follows.recent key entry other later member laterMember different ordered)

/-- A call that uses a key, and leaves an entry for it and what stands for the others. -/
theorem put (follows : Follows events cache)
    (before : Before event.instant events)
    (used : event.used? = some key)
    (lastUsed : entry.lastUsed = event.instant)
    (stands : Cache.standing key (event :: events) = some (entry.value, entry.expiresAt))
    (standsOther : ∀ other, other ≠ key → Cache.standing other (event :: events) =
      Cache.standing other events) :
    Follows (event :: events) (cache.put key entry) where
  distinct := by
    rw [keys_put follows.distinct, List.nodup_cons]
    exact ⟨follows.distinct.not_mem_erase, follows.distinct.erase key⟩
  standing other stored member := by
    rcases mem_entries_put.mp member with ⟨rfl, rfl⟩ | ⟨isOld, different⟩
    · exact stands
    · rw [standsOther other different]
      exact follows.standing other stored isOld
  past other stored member := by
    rcases mem_entries_put.mp member with ⟨rfl, rfl⟩ | ⟨isOld, _⟩
    · exact ⟨event, List.mem_cons_self, lastUsed⟩
    · obtain ⟨earlier, isEarlier, usedThen⟩ := follows.past other stored isOld
      exact ⟨earlier, List.mem_cons_of_mem _ isEarlier, usedThen⟩
  recent first stored second later member laterMember different ordered := by
    have now (other : String) (stored : CacheEntry) (member : (other, stored) ∈ cache.entries) :
        stored.lastUsed < entry.lastUsed := by
      obtain ⟨earlier, isEarlier, usedThen⟩ := follows.past other stored member
      rw [usedThen, lastUsed]
      exact before earlier isEarlier
    rcases mem_entries_put.mp member with ⟨rfl, rfl⟩ | ⟨isOld, notFirst⟩
    · rcases mem_entries_put.mp laterMember with ⟨rfl, _⟩ | ⟨laterOld, _⟩
      · exact absurd rfl different
      · exact absurd (now second later laterOld) (Nat.not_lt.mpr ordered)
    · have notUsed : event.used? ≠ some first := by
        rw [used]
        exact fun same => notFirst (Option.some.inj same).symm
      rcases mem_entries_put.mp laterMember with ⟨rfl, _⟩ | ⟨laterOld, _⟩
      · rw [usedSince_of_other used different]
        exact Finset.mem_insert_self _ _
      · exact usedSince_subset notUsed
          (follows.recent first stored second later isOld laterOld different ordered)

end Follows

/-! ## What becomes of a value that stands -/

/-- A key is still there, its deadline is past, or as many others were used as there is room for. -/
def Kept (events : List CacheEvent) (cache : Cache) (key : String) (deadline : Nat) : Prop :=
  key ∈ cache.keys ∨ (∃ event ∈ events, deadline ≤ event.instant) ∨
    cache.limit ≤ (usedSince key events).card

/-- What a call leaves of a key that it does not use, if it leaves it where it was. -/
private theorem Kept.call {later : Cache} {deadline : Nat} (kept : Kept events cache key deadline)
    (notUsed : event.used? ≠ some key)
    (sameLimit : later.limit = cache.limit)
    (leaves : key ∈ cache.keys → Kept (event :: events) later key deadline) :
    Kept (event :: events) later key deadline := by
  rcases kept with present | ⟨earlier, isEarlier, past⟩ | enough
  · exact leaves present
  · exact .inr (.inl ⟨earlier, List.mem_cons_of_mem _ isEarlier, past⟩)
  · rw [← sameLimit] at enough
    exact .inr (.inr (Nat.le_trans enough (Finset.card_le_card (usedSince_subset notUsed))))

/--
Where a full cache gives up a key for another, it has room for no more than were used since: all
its other keys were used after the victim, and the new key is none of them.
-/
private theorem Follows.enough {victim : String}
    (follows : Follows events cache)
    (full : cache.limit ≤ cache.size)
    (member : (victim, entry) ∈ cache.entries)
    (least : ∀ other ∈ cache.entries, entry.lastUsed ≤ other.2.lastUsed)
    (absent : key ∉ cache.keys)
    (used : event.used? = some key) :
    cache.limit ≤ (usedSince victim (event :: events)).card := by
  have victimPresent : victim ∈ cache.keys := mem_keys.mpr ⟨entry, member⟩
  have different : key ≠ victim := fun same => absent (same ▸ victimPresent)
  rw [usedSince_of_other used different]
  have others : (cache.keys.erase victim).toFinset ⊆ usedSince victim events := by
    intro other isOther
    obtain ⟨notVictim, isKey⟩ :=
      follows.distinct.mem_erase_iff.mp (List.mem_toFinset.mp isOther)
    obtain ⟨later, laterMember⟩ := mem_keys.mp isKey
    exact follows.recent victim entry other later member laterMember notVictim
      (least _ laterMember)
  have apart : key ∉ (cache.keys.erase victim).toFinset := fun isOther =>
    absent (List.mem_of_mem_erase (List.mem_toFinset.mp isOther))
  calc
    cache.limit ≤ cache.size := full
    _ = (cache.keys.erase victim).length + 1 := by
      have positive := List.length_pos_of_mem victimPresent
      rw [List.length_erase_of_mem victimPresent, ← length_keys]
      omega
    _ = (insert key (cache.keys.erase victim).toFinset).card := by
      rw [Finset.card_insert_of_notMem apart,
        List.toFinset_card_of_nodup (follows.distinct.erase victim)]
    _ ≤ (insert key (usedSince victim events)).card :=
      Finset.card_le_card (Finset.insert_subset_insert _ others)

/-- What is true of a cache after a history. -/
structure Remembers (limit : Nat) (events : List CacheEvent) (cache : Cache) : Prop where
  limit_eq : cache.limit = max 1 limit
  bounded : cache.size ≤ cache.limit
  follows : Follows events cache
  kept : ∀ key value deadline, Cache.standing key events = some (value, deadline) →
    Kept events cache key deadline

namespace Remembers

theorem empty (limit : Nat) : Remembers limit [] (.empty limit) where
  limit_eq := rfl
  bounded := Nat.zero_le _
  follows := .empty limit
  kept _ _ _ stands := by cases stands

/-- A call that uses no key loses entries that are expired, or of which nothing stands any more. -/
private theorem lose {fewer : Cache} (remembers : Remembers limit events cache)
    (sameLimit : fewer.limit = cache.limit)
    (entries : fewer.entries.Sublist cache.entries)
    (notUsed : event.used? = none)
    (stands : ∀ key, Cache.standing key (event :: events) = Cache.standing key events ∨
      Cache.standing key (event :: events) = none ∧ key ∉ fewer.keys)
    (dropped : ∀ key entry, (key, entry) ∈ cache.entries → key ∉ fewer.keys →
      entry.expiresAt ≤ event.instant ∨ Cache.standing key (event :: events) = none) :
    Remembers limit (event :: events) fewer where
  limit_eq := sameLimit.trans remembers.limit_eq
  bounded := by
    rw [sameLimit]
    exact Nat.le_trans entries.length_le remembers.bounded
  follows := by
    refine (remembers.follows.of_sublist entries).unused notUsed fun key present => ?_
    exact (stands key).resolve_right fun gone => gone.2 present
  kept key value deadline isStanding := by
    have stood : Cache.standing key events = some (value, deadline) := by
      rcases stands key with same | ⟨none, _⟩
      · rwa [same] at isStanding
      · rw [none] at isStanding
        cases isStanding
    refine (remembers.kept key value deadline stood).call (by simp [notUsed]) sameLimit
      fun present => ?_
    by_cases stays : key ∈ fewer.keys
    · exact .inl stays
    · obtain ⟨entry, member⟩ := mem_keys.mp present
      have same := remembers.follows.standing key entry member
      rw [stood, Option.some.injEq, Prod.mk.injEq] at same
      rcases dropped key entry member stays with past | none
      · exact .inr (.inl ⟨event, List.mem_cons_self, same.2 ▸ past⟩)
      · rw [none] at isStanding
        cases isStanding

/-- A call that uses a key gives up others only where as many were used as there is room for. -/
private theorem use {room : Cache} (remembers : Remembers limit events cache)
    (before : Before event.instant events)
    (used : event.used? = some key)
    (lastUsed : entry.lastUsed = event.instant)
    (stands : Cache.standing key (event :: events) = some (entry.value, entry.expiresAt))
    (standsOther : ∀ other, other ≠ key →
      Cache.standing other (event :: events) = Cache.standing other events)
    (sameLimit : room.limit = cache.limit)
    (entries : room.entries.Sublist cache.entries)
    (space : (room.put key entry).size ≤ cache.limit)
    (given : ∀ other ∈ cache.keys, other ∈ room.keys ∨
      cache.limit ≤ (usedSince other (event :: events)).card) :
    Remembers limit (event :: events) (room.put key entry) where
  limit_eq := sameLimit.trans remembers.limit_eq
  bounded := Nat.le_trans space (Nat.le_of_eq sameLimit.symm)
  follows := (remembers.follows.of_sublist entries).put before used lastUsed stands standsOther
  kept other value deadline isStanding := by
    by_cases here : other = key
    · exact .inl (mem_keys.mpr ⟨entry, mem_entries_put.mpr (.inl ⟨here, rfl⟩)⟩)
    · have notUsed : event.used? ≠ some other := by
        rw [used]
        exact fun same => here (Option.some.inj same).symm
      rw [standsOther other here] at isStanding
      refine (remembers.kept other value deadline isStanding).call notUsed sameLimit
        fun present => ?_
      rcases given other present with inRoom | enough
      · obtain ⟨stored, member⟩ := mem_keys.mp inRoom
        exact .inl (mem_keys.mpr ⟨stored, mem_entries_put.mpr (.inr ⟨member, here⟩)⟩)
      · rw [← sameLimit] at enough
        exact .inr (.inr enough)

/-- A key is read: it is used if it is there in time, and lost if its deadline is past. -/
theorem get (remembers : Remembers limit events cache) (before : Before now events)
    (key : String) :
    Remembers limit (⟨now, .get key, (cache.get key now).1⟩ :: events)
      (cache.get key now).2 := by
  have distinct := remembers.follows.distinct
  unfold Cache.get
  cases found : cache.find? key with
  | none =>
      exact remembers.lose rfl (.refl _) rfl (fun _ => .inl rfl) fun other entry member gone =>
        absurd (mem_keys.mpr ⟨entry, member⟩) gone
  | some entry =>
      have member := (find_eq_some_iff distinct).mp found
      have present : key ∈ cache.keys := mem_keys.mpr ⟨entry, member⟩
      by_cases live : entry.isLive now = true
      · simp only [live, if_true]
        have space : (cache.put key { entry with lastUsed := now }).size ≤ cache.limit := by
          rw [size_put distinct, if_pos present]
          exact remembers.bounded
        exact remembers.use before rfl rfl (remembers.follows.standing key entry member)
          (fun _ _ => rfl) rfl (.refl _) space fun _ isKey => .inl isKey
      · simp only [live, Bool.false_eq_true, if_false]
        refine remembers.lose rfl List.filter_sublist rfl (fun _ => .inl rfl)
          fun other stored isOther gone => ?_
        by_cases here : other = key
        · subst here
          have same := (find_eq_some_iff distinct).mpr isOther
          rw [found, Option.some.injEq] at same
          subst same
          exact .inl (Nat.le_of_not_lt fun inTime => live (decide_eq_true inTime))
        · exact absurd (mem_keys.mpr ⟨stored, mem_entries_erase.mpr ⟨isOther, here⟩⟩) gone

/-- A key is set, for which another may have to go. -/
theorem set (remembers : Remembers limit events cache) (before : Before now events)
    (key value : String) (lifetime : Nat) :
    Remembers limit (⟨now, .set key value lifetime, none⟩ :: events)
      (cache.set key value lifetime now) := by
  have distinct := remembers.follows.distinct
  have bounded := remembers.bounded
  have positive : 0 < cache.limit := by
    rw [remembers.limit_eq]
    omega
  have stands : standing key (⟨now, .set key value lifetime, none⟩ :: events) =
      some (value, now + lifetime) := if_pos rfl
  have standsOther (other : String) (different : other ≠ key) :
      standing other (⟨now, .set key value lifetime, none⟩ :: events) = standing other events :=
    if_neg different.symm
  unfold Cache.set
  rcases makeRoom_cases positive key with
    ⟨same, hasRoom⟩ | ⟨absent, full, victim, entry, member, least, erased⟩
  · rw [same]
    refine remembers.use before rfl rfl stands standsOther rfl (.refl _) ?_
      fun _ isKey => .inl isKey
    rw [size_put distinct]
    split
    · exact bounded
    · exact hasRoom.resolve_left ‹_›
  · rw [erased]
    have victimPresent : victim ∈ cache.keys := mem_keys.mpr ⟨entry, member⟩
    refine remembers.use before rfl rfl stands standsOther rfl List.filter_sublist ?_ ?_
    · have left : (cache.erase victim).keys.length = cache.size - 1 := by
        rw [keys_erase distinct, List.length_erase_of_mem victimPresent, length_keys]
      have stillDistinct : (cache.erase victim).keys.Nodup := by
        rw [keys_erase distinct]
        exact distinct.erase victim
      rw [length_keys] at left
      have size := size_put stillDistinct key ⟨value, now + lifetime, now⟩
      split at size
      · omega
      · omega
    · intro other isKey
      by_cases isVictim : other = victim
      · subst isVictim
        exact .inr (remembers.follows.enough full member least absent rfl)
      · rw [keys_erase distinct]
        exact .inl ((List.mem_erase_of_ne isVictim).mpr isKey)

/-- A key is dropped, and nothing stands of it. -/
theorem erase (remembers : Remembers limit events cache) (now : Nat) (key : String) :
    Remembers limit (⟨now, .erase key, none⟩ :: events) (cache.erase key) := by
  have gone (other : String) (same : other = key) :
      standing other (⟨now, .erase key, none⟩ :: events) = none := if_pos same.symm
  refine remembers.lose rfl List.filter_sublist rfl (fun other => ?_)
    fun other stored isOther notLeft => ?_
  · by_cases here : other = key
    · refine .inr ⟨gone other here, ?_⟩
      rw [keys_erase remembers.follows.distinct, here]
      exact remembers.follows.distinct.not_mem_erase
    · exact .inl (if_neg (Ne.symm here))
  · by_cases here : other = key
    · exact .inr (gone other here)
    · exact absurd (mem_keys.mpr ⟨stored, mem_entries_erase.mpr ⟨isOther, here⟩⟩) notLeft

/-- The expired entries are dropped. -/
theorem dropExpired (remembers : Remembers limit events cache) (now : Nat) :
    Remembers limit (⟨now, .dropExpired, none⟩ :: events) (cache.dropExpired now) := by
  refine remembers.lose rfl List.filter_sublist rfl (fun _ => .inl rfl)
    fun other stored isOther notLeft => .inl (Nat.le_of_not_lt fun inTime => notLeft ?_)
  exact mem_keys.mpr ⟨stored, List.mem_filter.mpr ⟨isOther, decide_eq_true inTime⟩⟩

end Remembers

/-- What is true of a cache after any history. -/
theorem Ran.remembers (ran : Ran limit events cache) : Remembers limit events cache := by
  induction ran with
  | start => exact .empty limit
  | call asked now later _ inductionHypothesis =>
      cases asked with
      | get key => exact inductionHypothesis.get later key
      | set key value lifetime => exact inductionHypothesis.set later key value lifetime
      | erase key => exact inductionHypothesis.erase now key
      | dropExpired => exact inductionHypothesis.dropExpired now

/--
A cache never has more entries than it may.  It gives a text for a key only if that is what
the last call that set the key gave it, the key was not dropped since, and the deadline that
this call set is ahead.  And it does give it if fewer other keys were used since the last use
of the key than the cache may have entries.
-/
theorem Ran.get_eq_some_of_standing (ran : Ran limit events cache) :
    cache.size ≤ max 1 limit ∧
      ∀ key now, Before now events → ∀ value,
        ((cache.get key now).1 = some value →
          ∃ deadline, standing key events = some (value, deadline) ∧ now < deadline) ∧
        ∀ deadline, standing key events = some (value, deadline) → now < deadline →
          (usedSince key events).card < max 1 limit → (cache.get key now).1 = some value := by
  have remembers := ran.remembers
  have distinct := remembers.follows.distinct
  rw [← remembers.limit_eq]
  refine ⟨remembers.bounded, fun key now later value => ⟨fun given => ?_, ?_⟩⟩
  · obtain ⟨entry, found, rfl, inTime⟩ := live_of_get given
    have member := (find_eq_some_iff distinct).mp found
    exact ⟨_, remembers.follows.standing key entry member, inTime⟩
  · intro deadline stands inTime few
    rcases remembers.kept key value deadline stands with
      present | ⟨event, member, past⟩ | enough
    · obtain ⟨entry, member⟩ := mem_keys.mp present
      have same := remembers.follows.standing key entry member
      rw [stands, Option.some.injEq, Prod.mk.injEq] at same
      obtain ⟨rfl, rfl⟩ := same
      have found := (find_eq_some_iff distinct).mpr member
      simp [Cache.get, found, CacheEntry.isLive, inTime]
    · exact absurd (Nat.lt_of_le_of_lt past (later event member)) (Nat.not_lt.mpr
        (Nat.le_of_lt inTime))
    · exact absurd enough (Nat.not_le.mpr few)

namespace Busy

/-- The calls of a cache for three entries: one of three keys is read before a fourth is set. -/
def calls : List (CacheCall × Nat) :=
  [(.set "a" "1" 30000, 1), (.set "b" "2" 30000, 10), (.set "c" "3" 30000, 20), (.get "a", 30),
    (.set "d" "4" 30000, 40)]

/-- What the calls were answered, the last one first, and the cache after them. -/
def history : List CacheEvent × Cache :=
  calls.foldl
    (fun (events, cache) (call, now) =>
      (⟨now, call, (cache.answer call now).1⟩ :: events, (cache.answer call now).2))
    ([], .empty 3)

end Busy

open Busy in
/-- What was read is still there; the key that was not used for the longest time had to go. -/
theorem get_eq_some_of_standing_busy :
    Ran 3 history.1 history.2 ∧ Before 50 history.1 ∧ history.2.size ≤ 3 ∧
      standing "a" history.1 = some ("1", 30001) ∧ (usedSince "a" history.1).card = 1 ∧
        (history.2.get "a" 50).1 = some "1" ∧
          (usedSince "b" history.1).card = 3 ∧ (history.2.get "b" 50).1 = none := by
  have ran : Ran 3 history.1 history.2 :=
    ((((Ran.start.call _ 1 (by decide)).call _ 10 (by decide)).call _ 20 (by decide)).call _ 30
      (by decide)).call _ 40 (by decide)
  have later : Before 50 history.1 := by decide +kernel
  obtain ⟨bounded, gives⟩ := ran.get_eq_some_of_standing
  have stands : standing "a" history.1 = some ("1", 30001) := by decide +kernel
  have few : (usedSince "a" history.1).card = 1 := by decide +kernel
  have given := (gives "a" 50 later "1").2 30001 stands (by decide) (few ▸ by decide)
  exact ⟨ran, later, bounded, stands, few, given, by decide +kernel, by decide +kernel⟩

end Cache

end Switchboard
