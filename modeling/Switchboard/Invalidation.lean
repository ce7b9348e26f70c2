import Switchboard.Override.Scope
import Switchboard.Time.Instant

namespace Switchboard

/-!
# Invalidations

The messages by which instances tell each other that something was written, and
the keys under which a cache keeps it.  A message is delivered at most once; who
misses it serves an old entry until that expires.
-/

/-- The key under which a flag is cached. -/
def flagCacheKey (environment key : String) : String :=
  "toggles:flag:" ++ environment ++ ":" ++ key

/-- The key under which an override is cached. -/
def overrideCacheKey (scope : Scope) : String :=
  "toggles:override:" ++ scope.environment ++ ":" ++ scope.key ++ ":" ++ scope.kind.label ++
    ":" ++ scope.holder

/-- The news that a flag or the override of a scope was written. -/
inductive Invalidation where
  | flagUpdated (environment key : String) (version : Int64) (timestamp : Instant)
  | overrideChanged (scope : Scope) (timestamp : Instant)
  deriving DecidableEq, Repr

namespace Invalidation

/-- The topic on which invalidations travel unless the configuration names another. -/
def defaultTopic : String :=
  "toggles.invalidate"

/-- The name of the kind of news. -/
def eventType : Invalidation → String
  | .flagUpdated .. => "flag.updated"
  | .overrideChanged .. => "override.changed"

/-- The environment of what was written. -/
def environment : Invalidation → String
  | .flagUpdated environment .. => environment
  | .overrideChanged scope _ => scope.environment

/-- The key of the flag that was written or whose override was. -/
def key : Invalidation → String
  | .flagUpdated _ key .. => key
  | .overrideChanged scope _ => scope.key

/-- The key of the cache entry that is out of date. -/
def cacheKey : Invalidation → String
  | .flagUpdated environment key .. => flagCacheKey environment key
  | .overrideChanged scope _ => overrideCacheKey scope

end Invalidation

end Switchboard
