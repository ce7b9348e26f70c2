import Switchboard.Resolver

namespace Switchboard

/-!
# Batch evaluation

Many flags for one context.  Nothing is read unless the whole request is valid, each
key is resolved once however often it is asked for, and one batch of exposure
records tells what was answered.
-/

/-- A resolver, and the environment for requests that name none. -/
structure Evaluator where
  resolver : Resolver
  defaultEnvironment : String
  deriving DecidableEq, Repr

namespace Evaluator

/-- Refuse a request without keys, then its environment, then its first bad key. -/
def check (environment : String) (keys : List String) : Except ValidationError Unit := do
  if keys.isEmpty then throw .emptyKeys
  checkEnvironment environment
  keys.forM checkFlagKey

/-- The keys that a request asks for, each once and in increasing order. -/
def distinctKeys (keys : List String) : List String :=
  (TextSet.ofList keys).members

/-- The resolution of each key. -/
def resolveAll (evaluator : Evaluator) (environment : String) (context : Context) :
    List String → Operation (List (String × Resolution))
  | [] => return []
  | key :: rest => do
      let resolution ←
        evaluator.resolver.resolve environment key context.tenantId context.userId context
      let later ← evaluator.resolveAll environment context rest
      return (key, resolution) :: later

/-- The record of one answer. -/
def recordOf
    (environment : String)
    (context : Context)
    (timestamp : Instant)
    (key : String)
    (resolution : Resolution) : Exposure where
  environment := environment
  key := key
  value := resolution.value
  reason := resolution.reason
  userId := context.userId
  tenantId := context.tenantId
  timestamp := timestamp

/-- Hand a batch to the sink and count how that went. -/
def dispatch (records : List Exposure) : Operation Unit := do
  let logged : Except ServiceError Unit ← Operation.ask (.logExposures records)
  match logged with
  | .ok () => Operation.ask (.count ⟨.exposureRecordsSent, []⟩ records.length)
  | .error _ => Operation.count ⟨.exposureFailures, []⟩

/-- The resolutions of the requested keys, in increasing order of the keys. -/
def evaluate
    (evaluator : Evaluator)
    (environment? : Option String)
    (keys : List String)
    (context : Context) :
    Operation (List (String × Resolution)) := do
  let environment := environment?.getD evaluator.defaultEnvironment
  Operation.require (check environment keys)
  let distinct := distinctKeys keys
  Operation.ask (.observeBatch distinct.length)
  let now : Instant ← Operation.ask .readClock
  let pinned := context.pinned now
  let resolutions ← evaluator.resolveAll environment pinned distinct
  let timestamp := pinned.instantAt now
  dispatch (resolutions.map fun (key, resolution) =>
    recordOf environment pinned timestamp key resolution)
  return resolutions

/-- The values of the requested keys. -/
def evaluateValues
    (evaluator : Evaluator)
    (environment? : Option String)
    (keys : List String)
    (context : Context) :
    Operation (List (String × Bool)) := do
  let resolutions ← evaluator.evaluate environment? keys context
  return resolutions.map fun (key, resolution) => (key, resolution.value)

end Evaluator

end Switchboard
