import Switchboard.Deployment.World

namespace Switchboard

/-!
# Background work

What goes on between the operations of callers: listeners drop the cache entries
that the bus names, and the loops of the sinks send what waits.
-/

/-- Drop the entry that a delivery names. -/
def Cache.applyDelivery (cache : Cache) : Delivery → Cache
  | .event event => cache.erase event.cacheKey
  | _ => cache

/-- Drop the entries that deliveries name, if the cache can be reached. -/
def Instance.applyDeliveries (state : Instance) (deliveries : List Delivery) : Instance :=
  match state.backends.cache with
  | .working => { state with cache := deliveries.foldl Cache.applyDelivery state.cache }
  | _ => state

namespace World

/-- Let the listener of an instance take everything that waits for it. -/
def drainListener (world : World) (place : Nat) : World :=
  match world.instances[place]? with
  | none => world
  | some state =>
      match state.listener with
      | none => world
      | some receiver =>
          let (deliveries, bus) := world.bus.drain receiver
          { world with bus }.putInstance place (state.applyDeliveries deliveries)

/-- Let the loop of the sink of an instance run until it waits. -/
def settleSink (world : World) (place : Nat) : World :=
  match world.instances[place]? with
  | none => world
  | some state =>
      let (sink, output) := state.sink.settle world.clock ⟨world.delivered, state.metrics⟩
      { world with delivered := output.delivered }.putInstance place
        { state with sink, metrics := output.metrics }

/-- The instant at which the timer of an instance fires, if it has one. -/
def deadlineOf (world : World) (place : Nat) : Nat :=
  (world.instances[place]?.bind fun state => state.sink.loop).elim 0 FlushLoop.deadline

/-- The instances in the order in which their timers fire. -/
def firingOrder (world : World) : List Nat :=
  (List.range world.instances.length).mergeSort fun first second =>
    decide (world.deadlineOf first ≤ world.deadlineOf second)

/-- Let all background work run until it waits. -/
def settle (world : World) : World :=
  let listened := (List.range world.instances.length).foldl drainListener world
  listened.firingOrder.foldl settleSink listened

/-- Let the clock run on, and the background work with it. -/
def advance (world : World) (milliseconds : Nat) : World :=
  { world with clock := world.clock + milliseconds }.settle

/-- Stop the sink of an instance and let its loop send what waits. -/
def shutdown (world : World) (place : Nat) : World :=
  (world.modifyInstance place fun state => { state with sink := state.sink.shutdown }).settle

end World

end Switchboard
