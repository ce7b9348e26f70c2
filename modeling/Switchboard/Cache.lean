namespace Switchboard

/-!
# Cache

A bounded map from keys to texts.  An entry expires a fixed time after it was set,
however often it is read meanwhile, and a full cache gives up the entry that was
not used for the longest time.  The clock counts milliseconds.
-/

/-- A cached text, the instant at which it is gone, and the instant of its last use. -/
structure CacheEntry where
  value : String
  expiresAt : Nat
  lastUsed : Nat
  deriving DecidableEq, Repr

namespace CacheEntry

/-- Whether an entry still counts. -/
def isLive (entry : CacheEntry) (now : Nat) : Bool :=
  decide (now < entry.expiresAt)

end CacheEntry

/-- A cache: how many entries it may keep, and the entries, at most one for a key. -/
structure Cache where
  limit : Nat
  entries : List (String × CacheEntry)
  deriving DecidableEq, Repr

namespace Cache

/-- The number of entries of a cache unless the configuration says otherwise. -/
def defaultLimit : Nat :=
  10000

/-- The empty cache; it may keep at least one entry. -/
def empty (limit : Nat) : Cache :=
  ⟨max 1 limit, []⟩

/-- The number of entries, expired ones included. -/
def size (cache : Cache) : Nat :=
  cache.entries.length

/-- The entry of a key, expired or not. -/
def find? (cache : Cache) (key : String) : Option CacheEntry :=
  cache.entries.lookup key

/-- Drop the entry of a key. -/
def erase (cache : Cache) (key : String) : Cache :=
  { cache with entries := cache.entries.filter fun (other, _) => other != key }

/-- Put an entry in the place of the one of its key. -/
def put (cache : Cache) (key : String) (entry : CacheEntry) : Cache :=
  { cache with entries := (key, entry) :: (cache.erase key).entries }

/-- The key of the entry that was not used for the longest time. -/
def leastRecent? : List (String × CacheEntry) → Option (String × CacheEntry)
  | [] => none
  | (key, entry) :: rest =>
      match leastRecent? rest with
      | none => some (key, entry)
      | some (other, oldest) =>
          if oldest.lastUsed < entry.lastUsed then some (other, oldest) else some (key, entry)

/-- Give up the entry that was not used for the longest time. -/
def evict (cache : Cache) : Cache :=
  match leastRecent? cache.entries with
  | none => cache
  | some (key, _) => cache.erase key

/-- Make room for a key that is not there. -/
def makeRoom (cache : Cache) (key : String) : Cache :=
  if (cache.find? key).isNone && decide (cache.limit ≤ cache.size) then cache.evict else cache

/-- Read a key; an expired entry is dropped. -/
def get (cache : Cache) (key : String) (now : Nat) : Option String × Cache :=
  match cache.find? key with
  | none => (none, cache)
  | some entry =>
      if entry.isLive now then
        (some entry.value, cache.put key { entry with lastUsed := now })
      else
        (none, cache.erase key)

/-- Set a key for a number of milliseconds. -/
def set (cache : Cache) (key value : String) (lifetime now : Nat) : Cache :=
  (cache.makeRoom key).put key ⟨value, now + lifetime, now⟩

/-- Drop the entries that are expired. -/
def dropExpired (cache : Cache) (now : Nat) : Cache :=
  { cache with entries := cache.entries.filter fun (_, entry) => entry.isLive now }

/-- After an entry was put, its key has it. -/
theorem find_put_self (cache : Cache) (key : String) (entry : CacheEntry) :
    (cache.put key entry).find? key = some entry := by
  simp [find?, put]

end Cache

end Switchboard
