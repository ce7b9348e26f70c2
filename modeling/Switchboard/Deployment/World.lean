import Switchboard.Bus
import Switchboard.Cache
import Switchboard.Exposure.Sink
import Switchboard.Service
import Switchboard.Store.Flags
import Switchboard.Store.Overrides

namespace Switchboard

/-!
# Deployments

Several instances of the service over one database and one bus, each with a cache,
metrics and a sink of its own.  Two clocks run: the one that counts milliseconds
moves the caches, the timeouts and the timers, the other gives the instants that
are stored and compared with expiries.
-/

/-- The condition of what an instance depends on. -/
inductive Health where
  | working
  | failing
  | hanging
  deriving DecidableEq, Repr

/-- The condition of everything that an instance depends on. -/
structure Backends where
  cache : Health := .working
  bus : Health := .working
  flags : Health := .working
  overrides : Health := .working
  deriving DecidableEq, Repr

/-- One instance of the service. -/
structure Instance where
  service : Service
  cache : Cache
  sink : Sink
  timeout : Nat := 500
  metrics : Metrics Nat := .empty
  backends : Backends := {}
  /-- The receiver by which the instance drops entries that others have written. -/
  listener : Option Nat := none
  deriving Repr

/-- The stored rows. -/
structure Database where
  flags : FlagTable := {}
  overrides : OverrideTable := {}
  deriving DecidableEq, Repr

/-- Everything that operations may change. -/
structure World where
  database : Database := {}
  bus : Bus := .ofCapacity Bus.defaultCapacity
  instances : List Instance := []
  delivered : Delivered := {}
  clock : Nat := 0
  calendar : Instant
  issuedIds : Nat := 0
  deriving Repr

namespace World

/-- Read the calendar, which then moves on. -/
def readCalendar (world : World) : Instant × World :=
  (world.calendar, { world with calendar := world.calendar.next })

/-- The identifier for the next override; none is given twice. -/
def nextId (world : World) : OverrideId :=
  OverrideId.ofNat (world.issuedIds + 1)

/-- Put an instance in its place. -/
def putInstance (world : World) (place : Nat) (state : Instance) : World :=
  { world with instances := world.instances.set place state }

/-- Change an instance. -/
def modifyInstance (world : World) (place : Nat) (change : Instance → Instance) : World :=
  { world with instances := world.instances.modify place change }

section Instances

variable {world : World} {place other : Nat} {state changed : Instance}
variable {change : Instance → Instance}

/-- An instance that is put where one was is there. -/
theorem present_putInstance (present : world.instances[place]? = some state)
    (changed : Instance) :
    (world.putInstance place changed).instances[place]? = some changed :=
  List.getElem?_set_self (List.getElem?_eq_some_iff.mp present).1

/-- An instance that changes is in its place. -/
theorem present_modifyInstance (present : world.instances[place]? = some state)
    (change : Instance → Instance) :
    (world.modifyInstance place change).instances[place]? = some (change state) := by
  have changed := List.getElem?_modify_eq change place world.instances
  rw [present] at changed
  exact changed

/-- Whoever else is there stays there, and stays the same. -/
theorem putInstance_other (different : other ≠ place) :
    (world.putInstance place changed).instances[other]? = world.instances[other]? :=
  List.getElem?_set_ne different.symm

theorem modifyInstance_other (different : other ≠ place) :
    (world.modifyInstance place change).instances[other]? = world.instances[other]? :=
  List.getElem?_modify_ne change world.instances different.symm

/-- What an instance shows as the one did whose place it takes, all show as they did. -/
theorem map_putInstance {observe : Instance → α}
    (present : world.instances[place]? = some state)
    (same : observe changed = observe state)
    (other : Nat) :
    (world.putInstance place changed).instances[other]?.map observe =
      world.instances[other]?.map observe := by
  by_cases here : other = place
  · subst here
    rw [present_putInstance present, present, Option.map_some, Option.map_some, same]
  · rw [putInstance_other here]

/-- What an instance shows after a change as it did before, all show as they did. -/
theorem map_modifyInstance {observe : Instance → α}
    (same : ∀ state, observe (change state) = observe state)
    (other : Nat) :
    (world.modifyInstance place change).instances[other]?.map observe =
      world.instances[other]?.map observe := by
  by_cases here : other = place
  · subst here
    cases present : world.instances[other]? with
    | none => simp [modifyInstance, present]
    | some state =>
        rw [present_modifyInstance present, Option.map_some, Option.map_some, same]
  · rw [modifyInstance_other here]

end Instances

end World

end Switchboard
