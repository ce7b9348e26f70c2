import Switchboard.Deployment.Handler

namespace Switchboard

/-!
# Setting up deployments

The settings of an instance, and the instance that they make.
-/

/-- What may differ between instances. -/
structure InstanceSettings where
  topic : String := Invalidation.defaultTopic
  lifetime : Nat := 30000
  timeout : Nat := 500
  cacheLimit : Nat := Cache.defaultLimit
  policy : FailurePolicy := .propagate
  defaultEnvironment : String := "prod"
  guard : Guard := {}
  listens : Bool := true
  destination : Destination := .record
  /-- The queue in front of the destination, with the loop that empties it. -/
  queue : Option QueueSettings := none
  deriving DecidableEq, Repr

namespace InstanceSettings

/-- The service of an instance. -/
def service (settings : InstanceSettings) : Service :=
  ⟨⟨⟨⟨settings.topic, settings.lifetime⟩, settings.policy⟩, settings.defaultEnvironment⟩,
    settings.guard⟩

/-- The sink of an instance that starts at an instant of the clock. -/
def sink (settings : InstanceSettings) (clock : Nat) : Sink :=
  match settings.queue with
  | none => .direct settings.destination
  | some queue => .looping settings.destination queue clock

end InstanceSettings

namespace World

/-- Add an instance, whose listener hears everything that is published from now on. -/
def addInstance (world : World) (settings : InstanceSettings) : World :=
  let (receiver, bus) := world.bus.subscribe settings.topic
  let state : Instance := {
    service := settings.service
    cache := .empty settings.cacheLimit
    sink := settings.sink world.clock
    timeout := settings.timeout
    listener := if settings.listens then some receiver else none
  }
  { world with
    bus := if settings.listens then bus else world.bus
    instances := world.instances ++ [state] }

/-- Add a receiver for the topic of each instance. -/
def addProbes (world : World) : List Nat × World :=
  world.instances.foldl
    (fun (receivers, world) state =>
      let (receiver, bus) := world.bus.subscribe state.service.layer.topic
      (receivers ++ [receiver], { world with bus }))
    ([], world)

end World

end Switchboard
