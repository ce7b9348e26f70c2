import Switchboard.Proofs.CacheKeys
import Switchboard.Proofs.Coherence.Deliveries
import Switchboard.Proofs.Layer.Tasks

namespace Switchboard.Cluster

open Layer (Task)

/-!
# Runs of a cluster

Any number of instances over the same stores, which speak on one topic of one bus.  They
join when they like, read and write in any order, each operation as a whole, while the
clocks run on and the listeners take one delivery at a time, now or later.
-/

/-- The receiver by which the instance in a place listens. -/
def listener? (world : World) (place : Nat) : Option Nat :=
  world.instances[place]?.bind Instance.listener

/-- The events that the instance in a place has yet to take. -/
def waiting (world : World) (place : Nat) : List Invalidation :=
  ((listener? world place).bind fun index => world.bus.receivers[index]?).elim []
    Receiver.pending

/-- One thing that happens to a cluster. -/
inductive Move where
  | join (settings : InstanceSettings)
  | listen (place : Nat)
  | work (place : Nat) (task : Task)
  | deliver (place : Nat)
  | pass (milliseconds : Nat) (calendar : Instant)

namespace Move

/-- The world after a move. -/
def take (move : Move) (world : World) : World :=
  match move with
  | join settings => world.addInstance settings
  | listen place => world.listen place
  | work place task =>
      match world.instances[place]? with
      | none => world
      | some state => (world.perform place (task.operation state.service.layer)).2
  | deliver place => world.deliver place
  | pass milliseconds calendar => { world with clock := world.clock + milliseconds, calendar }

/--
What a run keeps to: all instances speak on one topic, each listens before it first
reads, and no clock goes back.
-/
def IsOrderly (topic : String) (world : World) : Move → Prop
  | join settings => settings.topic = topic
  | listen _ => True
  | work place task => task.IsRegular ∧ (task.isRead = true → (listener? world place).isSome)
  | deliver _ => True
  | pass _ calendar => world.calendar ≤ calendar

instance (topic : String) (world : World) (move : Move) :
    Decidable (move.IsOrderly topic world) :=
  match move with
  | join settings => inferInstanceAs (Decidable (settings.topic = topic))
  | listen _ => .isTrue trivial
  | work place task =>
      inferInstanceAs
        (Decidable (task.IsRegular ∧ (task.isRead = true → (listener? world place).isSome)))
  | deliver _ => .isTrue trivial
  | pass _ calendar => inferInstanceAs (Decidable (world.calendar ≤ calendar))

end Move

/-- The world after some moves. -/
def takeAll : List Move → World → World
  | [], world => world
  | move :: rest, world => takeAll rest (move.take world)

/--
The worlds that orderly moves reach, in the years of four digits and without a receiver
that ever misses an event.
-/
inductive Reachable (topic : String) (start : World) : World → Prop where
  | start : Reachable topic start start
  | move {world : World} (move : Move) :
      Reachable topic start world → move.IsOrderly topic world →
        (move.take world).bus.KeepsUp → (move.take world).calendar.HasPlainYear →
          Reachable topic start (move.take world)

/-- Some moves, one after the other, are such as runs are made of. -/
def AreOrderly (topic : String) : List Move → World → Prop
  | [], _ => True
  | move :: rest, world =>
      move.IsOrderly topic world ∧ (move.take world).bus.KeepsUp ∧
        (move.take world).calendar.HasPlainYear ∧ AreOrderly topic rest (move.take world)

instance decidableAreOrderly (topic : String) :
    (moves : List Move) → (world : World) → Decidable (AreOrderly topic moves world)
  | [], _ => .isTrue trivial
  | move :: rest, world =>
      have := decidableAreOrderly topic rest (move.take world)
      inferInstanceAs (Decidable (_ ∧ _ ∧ _ ∧ _))

/-- Orderly moves lead from what a run reaches to what it reaches. -/
theorem Reachable.takeAll {topic : String} {start world : World} {moves : List Move}
    (reachable : Reachable topic start world)
    (orderly : AreOrderly topic moves world) :
    Reachable topic start (takeAll moves world) := by
  induction moves generalizing world with
  | nil => exact reachable
  | cons move rest inductionHypothesis =>
      obtain ⟨isOrderly, keepsUp, plainYear, restOrderly⟩ := orderly
      exact inductionHypothesis (reachable.move move isOrderly keepsUp plainYear) restOrderly

end Switchboard.Cluster
