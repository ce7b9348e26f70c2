import Switchboard.Config.Basic
import Switchboard.Deployment.Settings
import Switchboard.Store.Location

namespace Switchboard

/-!
# Lives of a configured service

A configured service is one instance that traces its exposure records through a
queue.  Between two of its lives only what is stored stays.
-/

/-- The settings of the instance that a configuration describes. -/
def InstanceSettings.ofConfig (config : Config) : InstanceSettings where
  topic := config.bus.topic
  lifetime := config.cache.lifetime
  timeout := config.store.timeout
  cacheLimit := config.cache.maxEntries
  policy := config.store.overrideFailure
  defaultEnvironment := config.evaluation.defaultEnvironment
  guard := ⟨config.platform.platformOnlyFlags⟩
  destination := .trace
  queue := some config.exposure

namespace World

/-- Begin a life: a new instance over the rows of the life before. -/
def begin (before : World) (config : Config) : World :=
  let silent : World := {
    database := before.database
    bus := .ofCapacity config.bus.channelCapacity
    clock := before.clock
    calendar := before.calendar
    issuedIds := before.issuedIds
  }
  silent.addInstance (.ofConfig config)

/-- Forget the rows, as memory does between two lives. -/
def forget (world : World) : World :=
  { world with database := {} }

/--
Begin a life over the database of a configuration; `disk` says what can be opened
where its URL counts.
-/
def beginAt (before : World) (config : Config) (disk : Option Disk) :
    Except ServiceError World :=
  match disk with
  | none => .ok (before.begin config)
  | some disk => do
      let location ← Location.openUrl disk config.database.url
      return if location.inMemory then before.forget.begin config else before.begin config

end World

end Switchboard
