import Switchboard.Proofs.CacheKeys
import Switchboard.Proofs.Layer.Backing
import Switchboard.Proofs.Store.Overrides

namespace Switchboard.Backing

open Surroundings

/-!
# Entries stay fresh

A cache is fresh for a flag or a scope when no readable entry of its key differs from
the store.  Freshness is lost only by a change of the rows that the entry survives:
what a read adds was just read, and what is read of one key says nothing about another.
-/

variable {State : Type} {backing : Backing State} {before after : State} {database : Database}

/-- Nothing that can be read is fresh. -/
theorem flagIsFresh_of_dropped {state : State} {environment key : String}
    (dropped : backing.Dropped state (flagCacheKey environment key)) :
    backing.FlagIsFresh state environment key := by
  intro text flag given decoded
  rw [(dropped text given).1 environment key rfl] at decoded
  cases decoded

theorem overrideIsFresh_of_dropped {state : State} {scope : Scope} {now : Instant}
    (dropped : backing.Dropped state (overrideCacheKey scope)) :
    backing.OverrideIsFresh state scope now := by
  intro text value given decoded
  rw [(dropped text given).2 scope rfl] at decoded
  cases decoded

/-- A flag stays fresh when its row stays. -/
theorem flagIsFresh_of_leaves {environment key : String}
    (leaves : backing.Leaves database before after)
    (same :
      database.flags.read environment key =
        (backing.database before).flags.read environment key)
    (fresh : backing.FlagIsFresh before environment key) :
    backing.FlagIsFresh after environment key := by
  intro text flag given decoded
  rw [leaves.database, same]
  exact fresh text flag (leaves.entries _ _ given) decoded

/-- A scope stays fresh when what is seen of it stays. -/
theorem overrideIsFresh_of_leaves {scope : Scope} {now : Instant}
    (leaves : backing.Leaves database before after)
    (same :
      database.overrides.find scope now = (backing.database before).overrides.find scope now)
    (fresh : backing.OverrideIsFresh before scope now) :
    backing.OverrideIsFresh after scope now := by
  intro text value given decoded
  rw [leaves.database, same]
  exact fresh text value (leaves.entries _ _ given) decoded

private theorem flagIsFresh_of_fills {environment key cacheKey text : String}
    (fills : backing.Fills cacheKey text before after)
    (read :
      flagCacheKey environment key = cacheKey → ∀ flag, Wire.decode? text = some flag →
        (backing.database before).flags.read environment key = .ok (some flag))
    (fresh : backing.FlagIsFresh before environment key) :
    backing.FlagIsFresh after environment key := by
  intro otherText flag given decoded
  rw [fills.database]
  rcases fills.entries _ _ given with old | ⟨isHere, rfl⟩
  · exact fresh otherText flag old decoded
  · exact read isHere flag decoded

private theorem overrideIsFresh_of_fills {scope : Scope} {now : Instant} {cacheKey text : String}
    (fills : backing.Fills cacheKey text before after)
    (found :
      overrideCacheKey scope = cacheKey → ∀ value : OverrideValue, Wire.decode? text = some value →
        (backing.database before).overrides.find scope now =
          .ok (if value.isActive now then some value else none))
    (fresh : backing.OverrideIsFresh before scope now) :
    backing.OverrideIsFresh after scope now := by
  intro otherText value given decoded
  rw [fills.database]
  rcases fills.entries _ _ given with old | ⟨isHere, rfl⟩
  · exact fresh otherText value old decoded
  · exact found isHere value decoded

/-- A read of any flag keeps every flag with valid names fresh. -/
theorem flagIsFresh_of_getFlag {environment key readEnvironment readKey : String}
    (valid : ValidNames environment key)
    (leaves :
      backing.Quiet before after ∨
        ∃ flag, (backing.database before).flags.read readEnvironment readKey = .ok (some flag) ∧
          backing.Fills (flagCacheKey readEnvironment readKey) (Wire.encode flag) before after)
    (fresh : backing.FlagIsFresh before environment key) :
    backing.FlagIsFresh after environment key := by
  rcases leaves with quiet | ⟨flag, read, fills⟩
  · exact flagIsFresh_of_leaves quiet rfl fresh
  · refine flagIsFresh_of_fills fills ?_ fresh
    intro isHere other decoded
    obtain ⟨rfl, rfl⟩ := (flagCacheKey_inj valid).mp isHere.symm
    rw [FaithfulWire.decode_encode_of_isShown (FlagTable.isShown_of_read read)] at decoded
    rw [read, decoded]

/-- A read of any override keeps every flag fresh. -/
theorem flagIsFresh_of_getOverride {environment key : String} {scope : Scope} {readAt : Instant}
    (leaves :
      backing.Quiet before after ∨
        ∃ value, (backing.database before).overrides.find scope readAt = .ok (some value) ∧
          backing.Fills (overrideCacheKey scope) (Wire.encode value) before after)
    (fresh : backing.FlagIsFresh before environment key) :
    backing.FlagIsFresh after environment key := by
  rcases leaves with quiet | ⟨value, found, fills⟩
  · exact flagIsFresh_of_leaves quiet rfl fresh
  · refine flagIsFresh_of_fills fills ?_ fresh
    intro isHere
    exact absurd isHere (flagCacheKey_ne_overrideCacheKey environment key scope)

/-- A read of any flag keeps every scope fresh. -/
theorem overrideIsFresh_of_getFlag {scope : Scope} {now : Instant} {environment key : String}
    (leaves :
      backing.Quiet before after ∨
        ∃ flag, (backing.database before).flags.read environment key = .ok (some flag) ∧
          backing.Fills (flagCacheKey environment key) (Wire.encode flag) before after)
    (fresh : backing.OverrideIsFresh before scope now) :
    backing.OverrideIsFresh after scope now := by
  rcases leaves with quiet | ⟨flag, read, fills⟩
  · exact overrideIsFresh_of_leaves quiet rfl fresh
  · refine overrideIsFresh_of_fills fills ?_ fresh
    intro isHere
    exact absurd isHere.symm (flagCacheKey_ne_overrideCacheKey environment key scope)

/--
A read of any override keeps a scope fresh as long as no other scope that has a row shares its
key.  What was found at one instant tells what is found at every other, so the entry is right
whenever it is looked at.
-/
theorem overrideIsFresh_of_getOverride {scope readScope : Scope} {now readAt : Instant}
    (leaves :
      backing.Quiet before after ∨
        ∃ value, (backing.database before).overrides.find readScope readAt = .ok (some value) ∧
          backing.Fills (overrideCacheKey readScope) (Wire.encode value) before after)
    (sound : (backing.database before).overrides.IsSound)
    (apart : (backing.database before).overrides.HasOnly scope.IsToldFrom)
    (storable : now.IsStorable)
    (fresh : backing.OverrideIsFresh before scope now) :
    backing.OverrideIsFresh after scope now := by
  rcases leaves with quiet | ⟨value, found, fills⟩
  · exact overrideIsFresh_of_leaves quiet rfl fresh
  · refine overrideIsFresh_of_fills fills ?_ fresh
    intro isHere other decoded
    obtain rfl := apart.of_find found isHere.symm
    rw [FaithfulWire.decode_encode_of_isShown (OverrideTable.isShown_of_find found)] at decoded
    cases decoded
    exact sound.find_of_seen found now storable

end Switchboard.Backing
