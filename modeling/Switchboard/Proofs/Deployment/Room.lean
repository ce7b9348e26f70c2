import Switchboard.Proofs.CacheHistory
import Switchboard.Proofs.Deployment.Lookups
import Switchboard.Proofs.Resolution.Lookups

namespace Switchboard

/-!
# Instances whose cache has room

A cache that may keep every entry that it has or is asked to set gives nothing up.  What a
lookup of a key gives then changes by requests about this key only.
-/

namespace Cache

variable {cache : Cache} {room : Finset String} {key other : String} {entry : CacheEntry}
variable {now : Nat}

/-- All entries are of some keys, and there may be an entry of each of these. -/
structure HasRoom (cache : Cache) (room : Finset String) : Prop where
  distinct : cache.keys.Nodup
  within : ∀ key ∈ cache.keys, key ∈ room
  fits : room.card ≤ cache.limit

namespace HasRoom

theorem erase (hasRoom : cache.HasRoom room) (key : String) : (cache.erase key).HasRoom room where
  distinct := by
    rw [keys_erase hasRoom.distinct]
    exact hasRoom.distinct.erase key
  within other member := by
    rw [keys_erase hasRoom.distinct] at member
    exact hasRoom.within other (List.mem_of_mem_erase member)
  fits := hasRoom.fits

theorem put (hasRoom : cache.HasRoom room) (member : key ∈ room) (entry : CacheEntry) :
    (cache.put key entry).HasRoom room where
  distinct := by
    rw [keys_put hasRoom.distinct, List.nodup_cons]
    exact ⟨hasRoom.distinct.not_mem_erase, hasRoom.distinct.erase key⟩
  within other isThere := by
    rw [keys_put hasRoom.distinct] at isThere
    rcases List.mem_cons.mp isThere with rfl | isOld
    · exact member
    · exact hasRoom.within other (List.mem_of_mem_erase isOld)
  fits := hasRoom.fits

theorem get (hasRoom : cache.HasRoom room) (key : String) (now : Nat) :
    (cache.get key now).2.HasRoom room := by
  unfold Cache.get
  cases found : cache.find? key with
  | none => exact hasRoom
  | some entry =>
      have isThere : key ∈ cache.keys := by
        by_contra absent
        rw [find_eq_none_iff.mpr absent] at found
        cases found
      simp only
      split
      · exact hasRoom.put (hasRoom.within key isThere) _
      · exact hasRoom.erase key

/-- Where there is room, setting a key gives nothing up. -/
theorem set_eq_put (hasRoom : cache.HasRoom room) (member : key ∈ room) (value : String)
    (lifetime now : Nat) :
    cache.set key value lifetime now = cache.put key ⟨value, now + lifetime, now⟩ := by
  have fits := hasRoom.fits
  have positive : 0 < cache.limit := Nat.lt_of_lt_of_le (Finset.card_pos.mpr ⟨key, member⟩) fits
  unfold set
  rcases makeRoom_cases positive key with ⟨unchanged, _⟩ | ⟨absent, full, _⟩
  · rw [unchanged]
  · have others : cache.keys.toFinset ⊆ room.erase key := fun other isThere =>
      have isKey := List.mem_toFinset.mp isThere
      Finset.mem_erase.mpr ⟨fun same => absent (same ▸ isKey), hasRoom.within other isKey⟩
    have fewer := Finset.card_le_card others
    rw [List.toFinset_card_of_nodup hasRoom.distinct, length_keys,
      Finset.card_erase_of_mem member] at fewer
    omega

end HasRoom

/-- What was put is given while it counts, and takes nothing from the readers of other keys. -/
theorem given_put (cache : Cache) (key other : String) (entry : CacheEntry) (now : Nat) :
    ((cache.put key entry).get other now).1 =
      if other = key then (if entry.isLive now then some entry.value else none)
      else (cache.get other now).1 := by
  rw [given_eq, given_eq]
  split
  · rename_i here
    rw [here, find_put_self, Option.bind_some]
  · rename_i notHere
    rw [find_put_other cache entry notHere]

/-- What was dropped is not given, and takes nothing from the readers of other keys. -/
theorem given_erase (cache : Cache) (key other : String) (now : Nat) :
    ((cache.erase key).get other now).1 =
      if other = key then none else (cache.get other now).1 := by
  split
  · rename_i here
    rw [given_eq, here, find_erase_self, Option.bind_none]
  · rename_i notHere
    exact given_erase_other cache notHere now

end Cache

/-- What a lookup of a key gives after a request to a cache of this health. -/
def Request.givenAfter (request : Request) (health : Health) (cacheKey : String)
    (given : Option String) : Option String :=
  match request with
  | .call (.cacheSet target text lifetime) =>
      if health = .working ∧ cacheKey = target then (if 0 < lifetime then some text else none)
      else given
  | .call (.cacheDelete target) =>
      if health = .working ∧ cacheKey = target then none else given
  | _ => given

/-- A request about other keys takes nothing from the readers of a key. -/
theorem Request.givenAfter_of_isAbout {request : Request} {health : Health}
    {cacheKeys : List String} {cacheKey : String} {given : Option String}
    (about : request.IsAbout cacheKeys)
    (elsewhere : cacheKey ∉ cacheKeys) :
    request.givenAfter health cacheKey given = given := by
  cases request with
  | call asked =>
      cases asked with
      | cacheSet target text lifetime =>
          have notHere : cacheKey ≠ target := fun same => elsewhere (same ▸ about)
          simp only [givenAfter, notHere, and_false, if_false]
      | cacheDelete target =>
          have notHere : cacheKey ≠ target := fun same => elsewhere (same ▸ about)
          simp only [givenAfter, notHere, and_false, if_false]
      | _ => rfl
  | _ => rfl

namespace World

variable {world later other : World} {place : Nat} {state changed : Instance}
variable {room : Finset String} {backends : Backends} {cacheKeys : List String}
variable {request : Request} {now : Instant}

/-- The instance in a place has these backends, and its cache has room for some entries. -/
def HasRoom (place : Nat) (backends : Backends) (room : Finset String) (world : World) : Prop :=
  ∃ state, world.instances[place]? = some state ∧ state.backends = backends ∧
    state.cache.HasRoom room

/-! ## Backends that do not hang -/

section Through

variable {health : Health} {timeout otherTimeout : Nat} {refusal : ServiceError}
variable {answer otherAnswer : World → Except ServiceError α × World}
variable (answers : health ≠ .hanging)
include answers

private theorem keeps_of_through {keeps : World → Prop}
    (worked : health = .working → keeps (answer world).2)
    (failed : health = .failing → keeps world) :
    keeps (world.through health timeout refusal answer).2 := by
  cases condition : health with
  | working =>
      rw [through_working rfl]
      exact worked condition
  | failing => exact failed condition
  | hanging => exact absurd condition answers

private theorem reply_of_through
    (worked : health = .working → (answer world).1 = (otherAnswer other).1) :
    (world.through health timeout refusal answer).1 =
      (other.through health otherTimeout refusal otherAnswer).1 := by
  cases condition : health with
  | working =>
      rw [through_working rfl, through_working rfl]
      exact congrArg Outcome.ofExcept (worked condition)
  | failing => rfl
  | hanging => exact absurd condition answers

end Through

/-! ## What requests leave -/

private theorem given_of_present (present : world.instances[place]? = some state)
    (cacheKey : String) :
    world.given place cacheKey = (state.cache.get cacheKey world.clock).1 := by
  rw [given, present, Option.bind_some]

/-- What a request leaves of an instance with room: the rows, and what is given for other keys. -/
structure LeavesRoom
    (place : Nat)
    (backends : Backends)
    (room : Finset String)
    (request : Request)
    (before after : World) : Prop where
  hasRoom : after.HasRoom place backends room
  database : after.database = before.database
  given : ∀ cacheKey, after.given place cacheKey =
    request.givenAfter backends.cache cacheKey (before.given place cacheKey)

private theorem leavesRoom_of_present
    (present : world.instances[place]? = some state)
    (presentLater : later.instances[place]? = some changed)
    (clock : later.clock = world.clock)
    (database : later.database = world.database)
    (same : changed.backends = state.backends)
    (hasRoom : changed.cache.HasRoom room)
    (given : ∀ cacheKey, (changed.cache.get cacheKey world.clock).1 =
      request.givenAfter state.backends.cache cacheKey
        (state.cache.get cacheKey world.clock).1) :
    LeavesRoom place state.backends room request world later where
  hasRoom := ⟨changed, presentLater, same, hasRoom⟩
  database := database
  given cacheKey := by
    rw [given_of_present present, given_of_present presentLater, clock]
    exact given cacheKey

/-- Counting the keys of a batch leaves an instance with room as it was. -/
theorem HasRoom.leavesRoom_observeBatch (hasRoom : world.HasRoom place backends room)
    (keys : Nat) :
    LeavesRoom place backends room (.observeBatch keys) world
      (world.handle place (.observeBatch keys)).2 := by
  obtain ⟨state, present, rfl, roomy⟩ := hasRoom
  have counted : world.handle place (.observeBatch keys) = ((), _) := handle_eq present _
  rw [counted]
  exact leavesRoom_of_present present (present_modifyInstance present _) rfl rfl rfl roomy
    fun _ => rfl

/-- What the requests of a resolution leave of an instance with room for its entries. -/
theorem HasRoom.leavesRoom (hasRoom : world.HasRoom place backends room)
    (now : Instant)
    (answers : ¬backends.Hang)
    (within : ∀ cacheKey ∈ cacheKeys, cacheKey ∈ room)
    (about : request.IsAbout cacheKeys) :
    LeavesRoom place backends room request world (stopped now (handle place) request world).2 := by
  obtain ⟨state, present, rfl, roomy⟩ := hasRoom
  obtain ⟨cacheAnswers, _, flagsAnswer, overridesAnswer⟩ :
      state.backends.cache ≠ .hanging ∧ state.backends.bus ≠ .hanging ∧
        state.backends.flags ≠ .hanging ∧ state.backends.overrides ≠ .hanging := by
    simpa only [Backends.Hang, not_or] using answers
  have same (request : Request)
      (given : ∀ cacheKey given, request.givenAfter state.backends.cache cacheKey given = given) :
      LeavesRoom place state.backends room request world world :=
    leavesRoom_of_present present present rfl rfl rfl roomy fun _ => (given _ _).symm
  cases request with
  | readClock => exact same _ fun _ _ => rfl
  | count counter amount =>
      have counted : stopped now (handle place) (.count counter amount) world = ((), _) :=
        handle_count present counter amount
      rw [counted]
      exact leavesRoom_of_present present (present_modifyInstance present _) rfl rfl rfl roomy
        fun _ => rfl
  | call asked =>
      have asks : stopped now (handle place) (.call asked) world =
          world.answer place state (.call asked) :=
        handle_eq present _
      rw [asks]
      cases asked with
      | cacheGet target =>
          refine keeps_of_through cacheAnswers (fun _ => ?_) fun _ => same _ fun _ _ => rfl
          simp only [getCached, present]
          exact leavesRoom_of_present present (present_putInstance present _) rfl rfl rfl
            (roomy.get _ _) fun cacheKey => Cache.given_get _ _ _ (Nat.le_refl _)
      | cacheSet target text lifetime =>
          have member := within target about
          refine keeps_of_through cacheAnswers (fun working => ?_) fun failing => same _ ?_
          · refine leavesRoom_of_present present (present_modifyInstance present _) rfl rfl rfl
              ?_ fun cacheKey => ?_
            · simp only [roomy.set_eq_put member]
              exact roomy.put member _
            · simp only [roomy.set_eq_put member, Cache.given_put, Request.givenAfter, working,
                CacheEntry.isLive, Nat.lt_add_right_iff_pos, decide_eq_true_eq, true_and]
          · simp [Request.givenAfter, failing]
      | cacheDelete target =>
          refine keeps_of_through cacheAnswers (fun working => ?_) fun failing => same _ ?_
          · refine leavesRoom_of_present present (present_modifyInstance present _) rfl rfl rfl
              (roomy.erase _) fun cacheKey => ?_
            simp only [Cache.given_erase, Request.givenAfter, working, true_and]
          · simp [Request.givenAfter, failing]
      | readFlag environment key =>
          exact keeps_of_through flagsAnswer (fun _ => same _ fun _ _ => rfl)
            fun _ => same _ fun _ _ => rfl
      | findOverride scope readAt =>
          exact keeps_of_through overridesAnswer (fun _ => same _ fun _ _ => rfl)
            fun _ => same _ fun _ _ => rfl
      | _ => exact absurd about id
  | _ => exact absurd about id

/-! ## Worlds in which an instance reads the same -/

/-- An instance with room has the same rows in two worlds, and is given the same for some keys. -/
structure ReadsAlike
    (place : Nat)
    (backends : Backends)
    (room : Finset String)
    (cacheKeys : List String)
    (world other : World) : Prop where
  hasRoom : world.HasRoom place backends room
  otherHasRoom : other.HasRoom place backends room
  database : world.database = other.database
  given : ∀ cacheKey ∈ cacheKeys, world.given place cacheKey = other.given place cacheKey

variable (alike : ReadsAlike place backends room cacheKeys world other)
include alike

/-- What an instance with room replies is said by its rows and by what is given for the key. -/
theorem ReadsAlike.reply_eq (answers : ¬backends.Hang) (about : request.IsAbout cacheKeys) :
    (stopped now (handle place) request world).1 =
      (stopped now (handle place) request other).1 := by
  obtain ⟨hasRoom, otherHasRoom, database, given⟩ := alike
  obtain ⟨state, present, rfl, _⟩ := hasRoom
  obtain ⟨otherState, otherPresent, same, _⟩ := otherHasRoom
  obtain ⟨cacheAnswers, _, flagsAnswer, overridesAnswer⟩ :
      state.backends.cache ≠ .hanging ∧ state.backends.bus ≠ .hanging ∧
        state.backends.flags ≠ .hanging ∧ state.backends.overrides ≠ .hanging := by
    simpa only [Backends.Hang, not_or] using answers
  cases request with
  | readClock => rfl
  | count counter amount => rfl
  | call asked =>
      have asks : stopped now (handle place) (.call asked) world =
          world.answer place state (.call asked) :=
        handle_eq present _
      have otherAsks : stopped now (handle place) (.call asked) other =
          other.answer place otherState (.call asked) :=
        handle_eq otherPresent _
      rw [asks, otherAsks]
      simp only [answer, answerCall, same]
      cases asked with
      | cacheGet target =>
          have sameText := given target about
          rw [given_of_present present, given_of_present otherPresent] at sameText
          refine reply_of_through cacheAnswers fun _ => ?_
          simp only [getCached, present, otherPresent, sameText]
      | cacheSet target text lifetime => exact reply_of_through cacheAnswers fun _ => rfl
      | cacheDelete target => exact reply_of_through cacheAnswers fun _ => rfl
      | readFlag environment key =>
          exact reply_of_through flagsAnswer fun _ =>
            congrArg (fun database => database.flags.read environment key) database
      | findOverride scope readAt =>
          exact reply_of_through overridesAnswer fun _ =>
            congrArg (fun database => database.overrides.find scope readAt) database
      | _ => exact absurd about id
  | _ => exact absurd about id

/-- Two worlds stay alike where the same is asked in both. -/
theorem ReadsAlike.both (answers : ¬backends.Hang)
    (within : ∀ cacheKey ∈ cacheKeys, cacheKey ∈ room)
    (about : request.IsAbout cacheKeys) :
    ReadsAlike place backends room cacheKeys (stopped now (handle place) request world).2
      (stopped now (handle place) request other).2 := by
  have leaves := alike.hasRoom.leavesRoom now answers within about
  have otherLeaves := alike.otherHasRoom.leavesRoom now answers within about
  exact {
    hasRoom := leaves.hasRoom
    otherHasRoom := otherLeaves.hasRoom
    database := leaves.database.trans (alike.database.trans otherLeaves.database.symm)
    given := fun cacheKey member => by
      rw [leaves.given, otherLeaves.given, alike.given cacheKey member] }

/-- Two worlds stay alike where something is asked in one of them about other keys. -/
theorem ReadsAlike.aside {otherKeys : List String} (answers : ¬backends.Hang)
    (within : ∀ cacheKey ∈ otherKeys, cacheKey ∈ room)
    (about : request.IsAbout otherKeys)
    (elsewhere : ∀ cacheKey ∈ cacheKeys, cacheKey ∉ otherKeys) :
    ReadsAlike place backends room cacheKeys (stopped now (handle place) request world).2
      other := by
  have leaves := alike.hasRoom.leavesRoom now answers within about
  exact {
    hasRoom := leaves.hasRoom
    otherHasRoom := alike.otherHasRoom
    database := leaves.database.trans alike.database
    given := fun cacheKey member => by
      rw [leaves.given, Request.givenAfter_of_isAbout about (elsewhere cacheKey member),
        alike.given cacheKey member] }

end World

end Switchboard
