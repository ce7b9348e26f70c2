import Switchboard.Deployment.Background

namespace Switchboard

/-!
# Answering requests

How an instance of a deployment answers the requests of its operations.  A backend
that fails refuses every call, and one that hangs answers none, so that the clock
runs on beyond the timeout of the caller.
-/

namespace World

/-- Ask a backend of an instance: its error where it fails, nothing in time where it hangs. -/
def through
    (world : World)
    (health : Health)
    (timeout : Nat)
    (refusal : ServiceError)
    (answer : World → Except ServiceError α × World) :
    Outcome α × World :=
  match health with
  | .failing => (.failed refusal, world)
  | .hanging => (.timedOut, world.advance (timeout + 1))
  | .working =>
      match answer world with
      | (.ok value, later) => (.answered value, later)
      | (.error error, later) => (.failed error, later)

/-- What a cache out of reach says. -/
def cacheRefusal : ServiceError :=
  .cache "connection refused"

/-- What a bus out of reach says. -/
def busRefusal : ServiceError :=
  .bus "broker down"

/-- What a store out of reach says. -/
def storeRefusal : ServiceError :=
  .database .exhausted

/-- Read a key of the cache of an instance. -/
def getCached (place : Nat) (key : String) (world : World) : Option String × World :=
  match world.instances[place]? with
  | none => (none, world)
  | some state =>
      let (text, cache) := state.cache.get key world.clock
      (text, world.putInstance place { state with cache })

/-- Change the cache of an instance. -/
def modifyCache (place : Nat) (change : Cache → Nat → Cache) (world : World) : World :=
  world.modifyInstance place fun state =>
    { state with cache := change state.cache world.clock }

/-- Hand an event to the receivers of a topic. -/
def publish (topic : String) (event : Invalidation) (world : World) : Nat × World :=
  let (reached, bus) := world.bus.publish topic event
  (reached, { world with bus })

/-- Write a flag: the flag written, unless its version is not the expected one. -/
def applyFlagWrite
    (write : FlagWrite)
    (expected : Option Int64)
    (world : World) :
    Except ServiceError (Option Flag) × World :=
  let (now, world) := world.readCalendar
  match world.database.flags.apply write expected now with
  | (none, _) => (.ok none, world)
  | (some row, flags) =>
      (row.decode.map some, { world with database := { world.database with flags } })

/-- Give the override of a scope a value: the override written. -/
def upsertOverride
    (scope : Scope)
    (value : Bool)
    (expiresAt : Option Instant)
    (world : World) :
    Except ServiceError Override × World :=
  let (now, world) := world.readCalendar
  let (row, overrides) := world.database.overrides.upsert world.nextId scope value expiresAt now
  (row.decode,
    { world with
      database := { world.database with overrides }
      issuedIds := world.issuedIds + 1 })

/-- Clear the override of a scope. -/
def clearOverride (scope : Scope) (world : World) : World :=
  let (now, world) := world.readCalendar
  let overrides := world.database.overrides.softDelete scope now
  { world with database := { world.database with overrides } }

/-- Remove the overrides of some identifiers that wait to be swept. -/
def purge (ids : List OverrideId) (now : Instant) (world : World) : Nat × World :=
  let (removed, overrides) := world.database.overrides.purge now ids
  (removed, { world with database := { world.database with overrides } })

/-- Answer a call of an instance. -/
def answerCall (state : Instance) (place : Nat) (call : Call) (world : World) :
    Outcome call.Answer × World :=
  let timeout := state.timeout
  let backends := state.backends
  match call with
  | .cacheGet key =>
      world.through backends.cache timeout cacheRefusal fun world =>
        let (text, later) := world.getCached place key
        (.ok text, later)
  | .cacheSet key value lifetime =>
      world.through backends.cache timeout cacheRefusal fun world =>
        (.ok (), world.modifyCache place fun cache now => cache.set key value lifetime now)
  | .cacheDelete key =>
      world.through backends.cache timeout cacheRefusal fun world =>
        (.ok (), world.modifyCache place fun cache _ => cache.erase key)
  | .publish topic event =>
      world.through backends.bus timeout busRefusal fun world =>
        let (reached, later) := world.publish topic event
        (.ok reached, later)
  | .readFlag environment key =>
      world.through backends.flags timeout storeRefusal fun world =>
        (world.database.flags.read environment key, world)
  | .applyFlagWrite write expected =>
      world.through backends.flags timeout storeRefusal (applyFlagWrite write expected)
  | .readFlagVersion environment key =>
      world.through backends.flags timeout storeRefusal fun world =>
        (world.database.flags.version environment key, world)
  | .findOverride scope now =>
      world.through backends.overrides timeout storeRefusal fun world =>
        (world.database.overrides.find scope now, world)
  | .upsertOverride scope value expiresAt =>
      world.through backends.overrides timeout storeRefusal (upsertOverride scope value expiresAt)
  | .clearOverride scope =>
      world.through backends.overrides timeout storeRefusal fun world =>
        (.ok (), world.clearOverride scope)

/-- Hand a batch of exposure records to the sink of an instance. -/
def logExposures (state : Instance) (place : Nat) (records : List Exposure) (world : World) :
    Except ServiceError Unit × World :=
  let (outcome, sink, output) := state.sink.log records ⟨world.delivered, state.metrics⟩
  (outcome,
    { world with delivered := output.delivered }.putInstance place
      { state with sink, metrics := output.metrics })

/-- Answer a request of an instance. -/
def answer (place : Nat) (state : Instance) (request : Request) (world : World) :
    request.Reply × World :=
  match request with
  | .call call => world.answerCall state place call
  | .listDead now limit =>
      if state.backends.overrides = .working then
        (world.database.overrides.listDead now limit, world)
      else
        (.error storeRefusal, world)
  | .purge ids now =>
      if state.backends.overrides = .working then
        let (removed, later) := world.purge ids now
        (.ok removed, later)
      else
        (.error storeRefusal, world)
  | .readClock => world.readCalendar
  | .count counter amount =>
      ((), world.modifyInstance place fun state =>
        { state with metrics := state.metrics.add counter amount })
  | .observeBatch keys =>
      ((), world.modifyInstance place fun state =>
        { state with metrics := state.metrics.observeBatch keys })
  | .logExposures records => world.logExposures state place records

/-- The instance that answers where there is none: everything about it fails. -/
def unreachable : Instance where
  service := ⟨⟨⟨{}, .propagate⟩, ""⟩, {}⟩
  cache := .empty 1
  sink := .direct .unavailable
  backends := ⟨.failing, .failing, .failing, .failing⟩

/-- Answer a request of the instance in a place. -/
def handle (place : Nat) (request : Request) (world : World) : request.Reply × World :=
  world.answer place (world.instances[place]?.getD unreachable) request

/-- Run an operation of an instance to its end. -/
def perform (world : World) (place : Nat) (operation : Operation α) :
    Except ServiceError α × World :=
  Program.run (handle place) operation.run world

end World

end Switchboard
