import Switchboard.Deployment.Settings
import Switchboard.Proofs.Deployment.Answers
import Switchboard.Proofs.Layer.Backing

namespace Switchboard

/-!
# An instance with a faulty cache

One instance of a deployment whose cache is in the hands of an adversary.  Before any
call the cache may forget entries; the call may succeed, fail or hang, and one that
fails or hangs may or may not have taken effect; a lookup may give a text that its
reader cannot make sense of.  All other requests go to the deployment.
-/

/-- How a call of the cache ends. -/
inductive CacheEnding where
  | works
  /-- A lookup gives this text, whatever the cache holds. -/
  | garbles (text : String)
  | fails (detail : String) (tookEffect : Bool)
  | hangs (tookEffect : Bool)
  deriving DecidableEq, Repr

namespace CacheEnding

/-- Whether the call did what it was asked for. -/
def tookEffect : CacheEnding → Bool
  | .works => true
  | .garbles _ => true
  | .fails _ tookEffect => tookEffect
  | .hangs tookEffect => tookEffect

/-- What the caller learns of a call with this answer. -/
def outcome (answer : α) : CacheEnding → Outcome α
  | .works => .answered answer
  | .garbles _ => .answered answer
  | .fails detail _ => .failed (.cache detail)
  | .hangs _ => .timedOut

/-- What the caller learns of a lookup. -/
def lookup (held : Option String) : CacheEnding → Outcome (Option String)
  | .garbles text => .answered (some text)
  | ending => ending.outcome held

end CacheEnding

/-- What the adversary does at one call: which entries are gone before it, and how it ends. -/
structure CacheFault where
  forgets : String → Bool := fun _ => false
  ending : CacheEnding := .works

/-- What the adversary does at each call, by the number of calls before it and its key. -/
structure CacheFaults where
  fault : Nat → String → CacheFault
  unreadable :
    ∀ calls cacheKey text, (fault calls cacheKey).ending = .garbles text →
      IsUnreadable cacheKey text

/-- A cache that always works. -/
def CacheFaults.absent : CacheFaults where
  fault _ _ := {}
  unreadable := by
    intro calls cacheKey text garbled
    cases garbled

/-- A cache that garbles its second answer, hangs once and then fails once. -/
def CacheFaults.troubled : CacheFaults where
  fault calls _ :=
    if calls = 1 then { ending := .garbles "?" }
    else if calls = 2 then { ending := .hangs false }
    else if calls = 3 then { ending := .fails "broken pipe" true }
    else {}
  unreadable := by
    intro calls cacheKey text garbled
    have isMark : text = "?" := by
      split at garbled
      · cases garbled
        rfl
      split at garbled
      · cases garbled
      split at garbled
      · cases garbled
      · cases garbled
    subst isMark
    exact ⟨fun _ _ _ => by decide, fun _ _ => by decide⟩

/-- A deployment, what the faulty cache of one instance holds, and the calls it has had. -/
structure Site where
  world : World
  contents : String → Option String := fun _ => none
  calls : Nat := 0

namespace Site

/-- Forget what the adversary wants forgotten before a call. -/
def forget (site : Site) (fault : CacheFault) : Site :=
  { site with
    contents := fun cacheKey => if fault.forgets cacheKey then none else site.contents cacheKey
    calls := site.calls + 1 }

/-- Hold a text for a key, or nothing. -/
def hold (site : Site) (cacheKey : String) (text? : Option String) : Site :=
  { site with
    contents := fun otherKey => if otherKey = cacheKey then text? else site.contents otherKey }

/-- Answer a request of the instance in a place. -/
def handle (faults : CacheFaults) (place : Nat) (request : Request) (site : Site) :
    request.Reply × Site :=
  match request with
  | .call (.cacheGet cacheKey) =>
      let fault := faults.fault site.calls cacheKey
      let later := site.forget fault
      (fault.ending.lookup (later.contents cacheKey), later)
  | .call (.cacheSet cacheKey text _) =>
      let fault := faults.fault site.calls cacheKey
      let later := site.forget fault
      (fault.ending.outcome (),
        if fault.ending.tookEffect then later.hold cacheKey (some text) else later)
  | .call (.cacheDelete cacheKey) =>
      let fault := faults.fault site.calls cacheKey
      let later := site.forget fault
      (fault.ending.outcome (),
        if fault.ending.tookEffect then later.hold cacheKey none else later)
  | request =>
      let (reply, world) := site.world.handle place request
      (reply, { site with world })

/-- The stores of the instance in a place work. -/
def IsUp (place : Nat) (site : Site) : Prop :=
  ∃ state, site.world.instances[place]? = some state ∧ state.backends.flags = .working ∧
    state.backends.overrides = .working

/-- The texts that a lookup may give: what is held, and what nobody can read. -/
def MayGive (site : Site) (cacheKey text : String) : Prop :=
  site.contents cacheKey = some text ∨ IsUnreadable cacheKey text

/-- What is around the instance in a place. -/
def surroundings (faults : CacheFaults) (place : Nat) : Surroundings Site where
  handle := handle faults place
  database site := site.world.database
  calendar site := site.world.calendar
  mayGive := MayGive
  isUp := IsUp place
  frame _ _ := True
  published _ _ before after :=
    IsUp place after ∧ after.world.database = before.world.database ∧
      after.contents = before.contents

variable {faults : CacheFaults} {place : Nat} {site : Site}

theorem contents_forget {fault : CacheFault} {cacheKey text : String}
    (held : (site.forget fault).contents cacheKey = some text) :
    site.contents cacheKey = some text := by
  simp only [forget] at held
  split at held
  · cases held
  · exact held

private theorem mayGive_forget {fault : CacheFault} {cacheKey text : String}
    (given : (site.forget fault).MayGive cacheKey text) :
    site.MayGive cacheKey text := by
  rcases given with held | unreadable
  · exact .inl (contents_forget held)
  · exact .inr unreadable

private theorem isUp_of_instances {later : World}
    (up : IsUp place site)
    (same : later.instances = site.world.instances) :
    IsUp place { site with world := later } := by
  obtain ⟨state, present, flags, overrides⟩ := up
  exact ⟨state, same ▸ present, flags, overrides⟩

private theorem isUp_of_sameStores {later : World}
    (up : IsUp place site)
    (same : World.SameStores site.world later) :
    IsUp place { site with world := later } := by
  obtain ⟨state, present, flags, overrides⟩ := up
  obtain ⟨changed, changedPresent, sameBackends⟩ :=
    World.present_of_backends (same.backends place) present
  exact ⟨changed, changedPresent, sameBackends ▸ flags, sameBackends ▸ overrides⟩

/-- Whether a request goes past the cache to the deployment. -/
private abbrev Passes (faults : CacheFaults) (place : Nat) (request : Request) (site : Site) :
    Prop :=
  handle faults place request site =
    ((site.world.handle place request).1,
      { site with world := (site.world.handle place request).2 })

private theorem leaves_of_answer
    {request : Request}
    {reply : request.Reply}
    {later : World}
    {database : Database}
    (passes : Passes faults place request site)
    (answered : site.world.handle place request = (reply, later))
    (up : IsUp place { site with world := later })
    (same : later.database = database) :
    (surroundings faults place).Leaves database site
      ((surroundings faults place).handle request site).2 := by
  have ended : ((surroundings faults place).handle request site).2 = { site with world := later } :=
    (congrArg Prod.snd passes).trans (by rw [answered])
  rw [ended]
  exact {
    isUp := up
    frame := trivial
    database := same
    entries := fun _ _ given => given }

private theorem quiet_forget (faults : CacheFaults) (fault : CacheFault) (up : IsUp place site) :
    (surroundings faults place).Quiet site (site.forget fault) where
  isUp := up
  frame := trivial
  database := rfl
  entries _ _ given := mayGive_forget given

private theorem quiet_hold_none (fault : CacheFault) (cacheKey : String) (up : IsUp place site) :
    (surroundings faults place).Quiet site ((site.forget fault).hold cacheKey none) where
  isUp := up
  frame := trivial
  database := rfl
  entries otherKey text given := by
    rcases given with held | unreadable
    · simp only [hold] at held
      split at held
      · cases held
      · exact .inl (contents_forget held)
    · exact .inr unreadable

private theorem mayGive_of_lookup {calls : Nat} {cacheKey text : String}
    (given :
      (faults.fault calls cacheKey).ending.lookup (site.contents cacheKey) =
        .answered (some text)) :
    site.MayGive cacheKey text := by
  cases ending : (faults.fault calls cacheKey).ending with
  | works =>
      rw [ending] at given
      simp only [CacheEnding.lookup, CacheEnding.outcome, Outcome.answered.injEq] at given
      exact .inl given
  | garbles garbled =>
      rw [ending] at given
      simp only [CacheEnding.lookup, Outcome.answered.injEq, Option.some.injEq] at given
      subst given
      exact .inr (faults.unreadable calls cacheKey garbled ending)
  | fails detail took =>
      rw [ending] at given
      cases given
  | hangs took =>
      rw [ending] at given
      cases given

/-- An instance with a faulty cache follows the laws. -/
def backing (faults : CacheFaults) (place : Nat) : Backing Site where
  toSurroundings := surroundings faults place
  frame_refl _ := trivial
  frame_trans _ _ _ _ _ := trivial
  count site counter amount up := by
    obtain ⟨state, present, working⟩ := id up
    have counted := World.handle_count present counter amount
    have same := World.SameStores.modifyInstance site.world place
      (fun state => { state with metrics := state.metrics.add counter amount })
      (fun _ => rfl) (fun _ => .refl _)
    exact leaves_of_answer rfl counted (isUp_of_sameStores up same) rfl
  readClock site up := by
    obtain ⟨state, present, _⟩ := id up
    have answered := World.handle_readClock present
    exact ⟨congrArg Prod.fst answered,
      leaves_of_answer rfl answered (isUp_of_instances up rfl) rfl⟩
  cacheGet site cacheKey up :=
    ⟨quiet_forget faults _ up, fun text given => mayGive_forget (mayGive_of_lookup given)⟩
  cacheSet site cacheKey text lifetime up := by
    have quiet := quiet_forget faults (faults.fault site.calls cacheKey) up
    refine ⟨?_, trivial, ?_, ?_⟩
    · simp only [surroundings, handle]
      split
      · exact up
      · exact up
    · simp only [surroundings, handle]
      split
      · rfl
      · rfl
    · intro otherKey otherText given
      simp only [surroundings, handle] at given
      split at given
      · rcases given with held | unreadable
        · simp only [hold] at held
          split at held
          · rename_i here
            exact .inr ⟨here, (Option.some.inj held).symm⟩
          · exact .inl (.inl (contents_forget held))
        · exact .inl (.inr unreadable)
      · exact .inl (quiet.entries otherKey otherText given)
  cacheDelete site cacheKey up := by
    have handled :
        (surroundings faults place).handle (.call (.cacheDelete cacheKey)) site =
          ((faults.fault site.calls cacheKey).ending.outcome (),
            if (faults.fault site.calls cacheKey).ending.tookEffect then
              (site.forget (faults.fault site.calls cacheKey)).hold cacheKey none
            else site.forget (faults.fault site.calls cacheKey)) :=
      rfl
    rw [handled]
    refine ⟨?_, ?_, ?_⟩
    · simp only
      split
      · exact quiet_hold_none _ cacheKey up
      · exact quiet_forget faults _ up
    · intro answered text given
      have took : (faults.fault site.calls cacheKey).ending.tookEffect = true := by
        cases ending : (faults.fault site.calls cacheKey).ending with
        | works => rfl
        | garbles garbled => rfl
        | fails detail took =>
            rw [ending] at answered
            cases answered
        | hangs took =>
            rw [ending] at answered
            cases answered
      simp only [took, ↓reduceIte] at given
      rcases given with held | unreadable
      · simp [hold] at held
      · exact unreadable
    · intro error failed
      cases ending : (faults.fault site.calls cacheKey).ending with
      | works =>
          rw [ending] at failed
          cases failed
      | garbles garbled =>
          rw [ending] at failed
          cases failed
      | fails detail took =>
          rw [ending] at failed
          cases failed
          rfl
      | hangs took =>
          rw [ending] at failed
          cases failed
  publish site topic event up := by
    obtain ⟨state, present, _⟩ := id up
    have same := World.sameStores_publish present topic event
    exact ⟨isUp_of_sameStores up same, same.database, rfl⟩
  published_isUp _ _ _ _ published := published.1
  readFlag site environment key up := by
    obtain ⟨state, present, flags, overrides⟩ := id up
    have answered := World.handle_readFlag present flags environment key
    exact ⟨congrArg Prod.fst answered, leaves_of_answer rfl answered up rfl⟩
  readFlagVersion site environment key up := by
    obtain ⟨state, present, flags, overrides⟩ := id up
    exact leaves_of_answer rfl (World.handle_readFlagVersion present flags environment key) up rfl
  applyFlagWrite site write expected up := by
    obtain ⟨state, present, flags, overrides⟩ := id up
    have answered := World.handle_applyFlagWrite present flags write expected
    exact ⟨congrArg Prod.fst answered,
      leaves_of_answer rfl answered (isUp_of_instances up rfl) rfl⟩
  findOverride site scope now up := by
    obtain ⟨state, present, flags, overrides⟩ := id up
    have answered := World.handle_findOverride present overrides scope now
    exact ⟨congrArg Prod.fst answered, leaves_of_answer rfl answered up rfl⟩
  upsertOverride site scope value expiresAt up := by
    obtain ⟨state, present, flags, overrides⟩ := id up
    have answered := World.handle_upsertOverride present overrides scope value expiresAt
    exact ⟨site.world.nextId, congrArg Prod.fst answered,
      leaves_of_answer rfl answered (isUp_of_instances up rfl) rfl⟩
  clearOverride site scope up := by
    obtain ⟨state, present, flags, overrides⟩ := id up
    have answered := World.handle_clearOverride present overrides scope
    exact ⟨congrArg Prod.fst answered,
      leaves_of_answer rfl answered (isUp_of_instances up rfl) rfl⟩
  listDead site now limit up := by
    obtain ⟨state, present, flags, overrides⟩ := id up
    exact leaves_of_answer rfl (World.handle_listDead present overrides now limit) up rfl
  purge site ids now up := by
    obtain ⟨state, present, flags, overrides⟩ := id up
    have answered := World.handle_purge present overrides ids now
    exact leaves_of_answer rfl answered (isUp_of_instances up rfl) rfl

/-- A flag is fresh when what is held of it and can be read is what the store reads. -/
theorem flagIsFresh_of_held {environment key : String}
    (fresh : ∀ flag, (site.contents (flagCacheKey environment key)).bind Wire.decode? = some flag →
      site.world.database.flags.read environment key = .ok (some flag)) :
    (backing faults place).FlagIsFresh site environment key := by
  intro text flag given decoded
  rcases given with held | unreadable
  · exact fresh flag (by rw [held, Option.bind_some, decoded])
  · rw [unreadable.1 environment key rfl] at decoded
    cases decoded

/-- A scope is fresh when what is held of it and can be read shows what the store finds. -/
theorem overrideIsFresh_of_held {scope : Scope} {now : Instant}
    (fresh : ∀ value : OverrideValue,
      (site.contents (overrideCacheKey scope)).bind Wire.decode? = some value →
        site.world.database.overrides.find scope now =
          .ok (if value.isActive now then some value else none)) :
    (backing faults place).OverrideIsFresh site scope now := by
  intro text value given decoded
  rcases given with held | unreadable
  · exact fresh value (by rw [held, Option.bind_some, decoded])
  · rw [unreadable.2 scope rfl] at decoded
    cases decoded

end Site

end Switchboard
