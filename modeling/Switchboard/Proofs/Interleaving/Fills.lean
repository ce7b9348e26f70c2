import Switchboard.Proofs.Interleaving.Floor
import Switchboard.Proofs.Places

namespace Switchboard.Interleaving

/-!
# What the cache holds was filled

Where the cache works, a text that it holds or that a lookup found was set by some
errand, and since then no errand set or dropped the entry.
-/

/-- The cache of an instance and its store of flags work. -/
def IsUp (place : Nat) (world : World) : Prop :=
  ∃ state, world.instances[place]? = some state ∧ state.backends.cache = .working ∧
    state.backends.flags = .working

/-- Whether an exchange drops or sets an entry of the cache. -/
def Entry.Touches (cacheKey : String) (entry : Entry) : Prop :=
  entry.exchange.request = .call (.cacheDelete cacheKey) ∨
    ∃ text lifetime, entry.exchange.request = .call (.cacheSet cacheKey text lifetime)

/-- A text was set, and not touched again before a place of the log. -/
def IsFilled (log : List Entry) (bound : Nat) (cacheKey text : String) : Prop :=
  ∃ filled filler lifetime reply,
    filled < bound ∧
      log[filled]? = some ⟨filler, ⟨.call (.cacheSet cacheKey text lifetime), reply⟩⟩ ∧
        ∀ between entry, filled < between → between < bound → log[between]? = some entry →
          ¬entry.Touches cacheKey

namespace IsFilled

variable {log : List Entry} {entry : Entry} {bound : Nat} {cacheKey text : String}

/-- Later exchanges change nothing about earlier places. -/
theorem snoc (filled : IsFilled log bound cacheKey text) (inLog : bound ≤ log.length) :
    IsFilled (log ++ [entry]) bound cacheKey text := by
  obtain ⟨index, filler, lifetime, reply, before, set, untouched⟩ := filled
  refine ⟨index, filler, lifetime, reply, before, ?_, ?_⟩
  · rw [List.getElem?_append_left (Nat.lt_of_lt_of_le before inLog)]
    exact set
  · intro between other after within found
    rw [List.getElem?_append_left (Nat.lt_of_lt_of_le within inLog)] at found
    exact untouched between other after within found

/-- An exchange that does not touch the entry leaves it filled. -/
theorem untouched (filled : IsFilled log log.length cacheKey text)
    (leaves : ¬entry.Touches cacheKey) :
    IsFilled (log ++ [entry]) (log ++ [entry]).length cacheKey text := by
  obtain ⟨index, filler, lifetime, reply, before, set, untouched⟩ := filled
  refine ⟨index, filler, lifetime, reply, ?_, ?_, ?_⟩
  · simp only [List.length_append, List.length_singleton]
    omega
  · rw [List.getElem?_append_left before]
    exact set
  · intro between other after within found
    rcases getElem_snoc found with ⟨inLog, earlier⟩ | ⟨_, rfl⟩
    · exact untouched between other after inLog earlier
    · exact leaves

/-- An exchange that sets the entry fills it. -/
theorem set (sets : ∃ lifetime, entry.exchange.request = .call (.cacheSet cacheKey text lifetime)) :
    IsFilled (log ++ [entry]) (log ++ [entry]).length cacheKey text := by
  obtain ⟨number, request, reply⟩ := entry
  obtain ⟨lifetime, rfl⟩ := sets
  refine ⟨log.length, number, lifetime, reply, by simp, by simp, ?_⟩
  intro between other after within
  simp only [List.length_append, List.length_singleton] at within
  omega

end IsFilled

/-- What the cache holds and what lookups found was filled. -/
structure Filled (place : Nat) (log : List Entry) (floor : Floor) : Prop where
  up : IsUp place floor.world
  held : ∀ cacheKey text, floor.world.held place cacheKey = some text →
    IsFilled log log.length cacheKey text
  found : ∀ looked number cacheKey text,
    log[looked]? = some ⟨number, ⟨.call (.cacheGet cacheKey), .answered (some text)⟩⟩ →
      IsFilled log looked cacheKey text

theorem filled_opening {place : Nat} {world : World} (layer : Layer) (errands : Nat → Errand)
    (up : IsUp place world)
    (empty : ∀ cacheKey, world.held place cacheKey = none) :
    Filled place [] (.opening layer errands world) where
  up := up
  held cacheKey text held := by
    have nothing : (Floor.opening layer errands world).world.held place cacheKey = none :=
      empty cacheKey
    cases nothing.symm.trans held
  found := by simp

/-- The backends that worked go on working. -/
theorem isUp_of_backends {place : Nat} {world later : World} (up : IsUp place world)
    (same :
      later.instances[place]?.map Instance.backends =
        world.instances[place]?.map Instance.backends) :
    IsUp place later := by
  obtain ⟨state, present, cache, flags⟩ := up
  obtain ⟨changed, changedPresent, backends⟩ := World.present_of_backends same present
  exact ⟨changed, changedPresent, backends ▸ cache, backends ▸ flags⟩

private theorem held_of_touches {place : Nat} {world : World} {request : Request}
    {cacheKey text : String} {number : Nat}
    (up : IsUp place world)
    (held : (world.handle place request).2.held place cacheKey = some text)
    (touches :
      (⟨number, ⟨request, (world.handle place request).1⟩⟩ : Entry).Touches cacheKey) :
    ∃ lifetime, request = .call (.cacheSet cacheKey text lifetime) := by
  obtain ⟨state, present, working, _⟩ := up
  rcases touches with drops | ⟨other, lifetime, sets⟩
  · cases drops
    cases (World.held_handle_cacheDelete present working cacheKey).symm.trans held
  · cases sets
    rw [World.handle_cacheSet present working] at held
    have sameText : other = text := by
      simpa [World.held, World.modifyCache, World.modifyInstance, present,
        Cache.text_set_self] using held
    exact ⟨lifetime, by rw [sameText]⟩

theorem Filled.happens {place : Nat} {log entries : List Entry} {floor later : Floor}
    (filled : Filled place log floor)
    (happened : Happens place floor entries later) :
    Filled place (log ++ entries) later := by
  cases happened with
  | waited world same =>
      rw [List.append_nil]
      exact {
        up := isUp_of_backends filled.up (same.backends place)
        held := fun cacheKey text held =>
          filled.held cacheKey text (same.losing place cacheKey text held)
        found := filled.found }
  | exchanged number request next left =>
      have kept := World.keepsCaches_handle floor.world place request
      refine {
        up := isUp_of_backends filled.up (kept.backends place)
        held := ?_
        found := ?_ }
      · intro cacheKey text held
        by_cases touches :
            (⟨number, ⟨request, (floor.world.handle place request).1⟩⟩ : Entry).Touches cacheKey
        · exact .set (held_of_touches filled.up held touches)
        · rcases kept.held place cacheKey text held with before | ⟨_, lifetime, sets⟩
          · exact (filled.held cacheKey text before).untouched touches
          · exact absurd (.inr ⟨text, lifetime, sets⟩) touches
      · intro looked other cacheKey text found
        rcases getElem_snoc found with ⟨inLog, earlier⟩ | ⟨rfl, now⟩
        · exact (filled.found looked other cacheKey text earlier).snoc (Nat.le_of_lt inLog)
        · simp only [Entry.mk.injEq, Exchange.mk.injEq] at now
          obtain ⟨rfl, rfl, replied⟩ := now
          have held := World.held_of_answered (eq_of_heq replied).symm
          exact (filled.held cacheKey text held).snoc (Nat.le_refl _)

end Switchboard.Interleaving
