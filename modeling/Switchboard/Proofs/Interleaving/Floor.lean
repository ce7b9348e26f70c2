import Switchboard.Proofs.Deployment.Contents
import Switchboard.Proofs.Interleaving.Errands

namespace Switchboard.Interleaving

/-!
# Errands that interleave

Any number of errands run at one instance of a deployment.  One exchange of one errand is
one turn, in any order; between them time passes, and what goes on in the background goes
on.  The log keeps every exchange.
-/

/-- An exchange of an errand. -/
structure Entry where
  number : Nat
  exchange : Exchange

/-- The world, and what is left to do of each errand. -/
structure Floor where
  world : World
  programs : Nat → Program (Except ServiceError (Option Flag))

/-- No errand has begun. -/
def Floor.opening (layer : Layer) (errands : Nat → Errand) (world : World) : Floor :=
  ⟨world, fun number => ((errands number).operation layer).run⟩

/-- Who goes on: an errand, the clock with all work in the background, or the calendar. -/
inductive Turn where
  | resume (number : Nat)
  | wait (milliseconds : Nat)
  | pass (calendar : Instant)
  deriving DecidableEq, Repr

/-- Take a turn: the exchange that was made, if any, and the floor after. -/
def Turn.take (place : Nat) (turn : Turn) (floor : Floor) : List Entry × Floor :=
  match turn with
  | resume number =>
      match floor.programs number with
      | .done _ => ([], floor)
      | .step request next =>
          let (reply, world) := floor.world.handle place request
          ([⟨number, ⟨request, reply⟩⟩],
            ⟨world, fun other => if other = number then next reply else floor.programs other⟩)
  | wait milliseconds => ([], { floor with world := floor.world.advance milliseconds })
  | pass calendar => ([], { floor with world := { floor.world with calendar } })

/-- Take turns: the exchanges in their order, and the floor after. -/
def takeTurns (place : Nat) : List Turn → Floor → List Entry × Floor
  | [], floor => ([], floor)
  | turn :: rest, floor =>
      let (entries, later) := turn.take place floor
      let (laterEntries, last) := takeTurns place rest later
      (entries ++ laterEntries, last)

/-- What a turn can do. -/
inductive Happens (place : Nat) (floor : Floor) : List Entry → Floor → Prop where
  | exchanged (number : Nat) (request : Request)
      (next : request.Reply → Program (Except ServiceError (Option Flag))) :
      floor.programs number = .step request next →
      Happens place floor
        [⟨number, ⟨request, (floor.world.handle place request).1⟩⟩]
        ⟨(floor.world.handle place request).2, fun other =>
          if other = number then next (floor.world.handle place request).1
          else floor.programs other⟩
  | waited (world : World) :
      World.SameStores floor.world world →
      Happens place floor [] { floor with world }

theorem happens_take (place : Nat) (turn : Turn) (floor : Floor) :
    Happens place floor (turn.take place floor).1 (turn.take place floor).2 := by
  cases turn with
  | resume number =>
      cases left : floor.programs number with
      | done outcome =>
          simp only [Turn.take, left]
          exact .waited floor.world (.refl _)
      | step request next =>
          simp only [Turn.take, left]
          exact .exchanged number request next left
  | wait milliseconds => exact .waited _ (World.sameStores_advance floor.world milliseconds)
  | pass calendar => exact .waited _ (.of_instances rfl rfl)

/-- What every turn keeps holds after all turns. -/
theorem takeTurns_induction {place : Nat} {holds : List Entry → Floor → Prop}
    (kept : ∀ log floor entries later, holds log floor → Happens place floor entries later →
      holds (log ++ entries) later)
    (turns : List Turn)
    {log : List Entry}
    {floor : Floor}
    (start : holds log floor) :
    holds (log ++ (takeTurns place turns floor).1) (takeTurns place turns floor).2 := by
  induction turns generalizing log floor with
  | nil => simpa [takeTurns] using start
  | cons turn rest inductionHypothesis =>
      have further := inductionHypothesis
        (kept log floor _ _ start (happens_take place turn floor))
      rwa [List.append_assoc] at further

/-- The exchanges of one errand. -/
def past (log : List Entry) (number : Nat) : List Exchange :=
  (log.filter fun entry => entry.number == number).map Entry.exchange

theorem past_append (log entries : List Entry) (number : Nat) :
    past (log ++ entries) number = past log number ++ past entries number := by
  simp [past]

theorem mem_past {log : List Entry} {number : Nat} {exchange : Exchange} :
    exchange ∈ past log number ↔ ⟨number, exchange⟩ ∈ log := by
  simp only [past, List.mem_map, List.mem_filter, beq_iff_eq]
  constructor
  · rintro ⟨⟨other, _⟩, ⟨member, rfl⟩, rfl⟩
    exact member
  · intro member
    exact ⟨⟨number, exchange⟩, ⟨member, rfl⟩, rfl⟩

/-- Errands keep to their conduct, and what filled the cache was read from the store. -/
structure Conducted (errands : Nat → Errand) (log : List Entry) (floor : Floor) : Prop where
  keeps : ∀ number,
    (floor.programs number).Keeps (errands number).conduct (past log number)
  fills : ∀ number cacheKey text lifetime reply,
    ⟨number, ⟨.call (.cacheSet cacheKey text lifetime), reply⟩⟩ ∈ log →
      ∃ environment key flag, cacheKey = flagCacheKey environment key ∧
        text = Wire.encode flag ∧
          ⟨number, ⟨.call (.readFlag environment key), .answered (some flag)⟩⟩ ∈ log

theorem conducted_opening (layer : Layer) (errands : Nat → Errand) (world : World) :
    Conducted errands [] (.opening layer errands world) where
  keeps number := (errands number).keeps_operation layer
  fills := by simp

/-- An errand that may fill the cache has read the flag from the store. -/
private theorem fills_of_asks {errand : Errand} {past : List Exchange}
    {cacheKey text : String} {lifetime : Nat}
    (asks : errand.conduct.asks past (.call (.cacheSet cacheKey text lifetime))) :
    ∃ environment key flag, cacheKey = flagCacheKey environment key ∧
      text = Wire.encode flag ∧
        ⟨.call (.readFlag environment key), .answered (some flag)⟩ ∈ past := by
  cases errand with
  | getFlag environment key =>
      obtain ⟨sameKey, flag, read, sameText⟩ := asks cacheKey text lifetime rfl
      exact ⟨environment, key, flag, sameKey, sameText, read⟩
  | writeFlag write expected => exact absurd rfl (asks cacheKey text lifetime)

theorem Conducted.happens {place : Nat} {errands : Nat → Errand} {log entries : List Entry}
    {floor later : Floor}
    (conducted : Conducted errands log floor)
    (happened : Happens place floor entries later) :
    Conducted errands (log ++ entries) later := by
  cases happened with
  | waited world same => simpa using ⟨conducted.keeps, conducted.fills⟩
  | exchanged number request next left =>
      have here := conducted.keeps number
      rw [left] at here
      obtain ⟨asks, resumes⟩ := here
      refine ⟨fun other => ?_, ?_⟩
      · rw [past_append]
        by_cases isHere : other = number
        · subst isHere
          simpa [past] using resumes (floor.world.handle place request).1
        · have notHere : (number == other) = false := beq_eq_false_iff_ne.mpr (Ne.symm isHere)
          simpa [past, isHere, notHere] using conducted.keeps other
      · intro other cacheKey text lifetime reply member
        rcases List.mem_append.mp member with before | now
        · obtain ⟨environment, key, flag, sameKey, sameText, read⟩ :=
            conducted.fills other cacheKey text lifetime reply before
          exact ⟨environment, key, flag, sameKey, sameText, List.mem_append_left _ read⟩
        · cases List.mem_singleton.mp now
          obtain ⟨environment, key, flag, sameKey, sameText, read⟩ := fills_of_asks asks
          exact ⟨environment, key, flag, sameKey, sameText,
            List.mem_append_left _ (mem_past.mp read)⟩

end Switchboard.Interleaving
