import Switchboard.Deployment.Life
import Switchboard.Proofs.Config.Layering
import Switchboard.Proofs.Validity.Tasks

namespace Switchboard

open Guarding (Task LetsServe)

/-!
# Limits of the host

The host of a service makes channels for half as many events as a word counts, and its instants
have seconds that fit a signed word.  What is beyond ends the process.  The checks of a
configuration ask nothing of the kind, so that whoever writes one has to stay within the limits.
-/

/-! ## What the host can do -/

namespace Host

/-- The room of a channel for so many events, unless they are none or too many. -/
def room? (asked : Nat) : Option Nat :=
  if 0 < asked ∧ asked ≤ (2 ^ 64 - 1) / 2 then some asked.nextPowerOfTwo else none

/-- The instant that is so many milliseconds later, unless its seconds do not fit. -/
def instantAfter? (now milliseconds : Nat) : Option Nat :=
  if (now + milliseconds) / 1000 ≤ 2 ^ 63 - 1 then some (now + milliseconds) else none

/-- The end of the instants at which a process runs. -/
def horizon : Nat :=
  2 ^ 62 * 1000

theorem room?_eq_some_iff {asked room : Nat} (positive : 0 < asked) :
    room? asked = some room ↔ asked < 2 ^ 63 ∧ asked.nextPowerOfTwo = room := by
  unfold room?
  split
  · next fits =>
      rw [Option.some.injEq, iff_and_self]
      omega
  · next exceeds =>
      refine iff_of_false nofun fun ⟨small, _⟩ => exceeds ⟨positive, ?_⟩
      omega

/-- Whatever the clock shows, a lifetime can be added to it as long as it fits the rest. -/
theorem instantAfter?_eq_some_iff {lifetime : Nat} :
    (∀ now < horizon, instantAfter? now lifetime = some (now + lifetime)) ↔
      lifetime ≤ horizon := by
  unfold horizon instantAfter?
  constructor
  · intro fits
    have atLast := fits (2 ^ 62 * 1000 - 1) (by decide)
    split at atLast
    · omega
    · cases atLast
  · intro short now early
    exact if_pos (by omega)

end Host

/-! ## What a program may come to ask -/

/-- A program comes to a request where it is replied to accordingly. -/
inductive Program.MayAsk : Program α → Request → Prop where
  | now (request : Request) (resume : request.Reply → Program α) :
      MayAsk (.step request resume) request
  | later {request asked : Request} {resume : request.Reply → Program α} (reply : request.Reply) :
      MayAsk (resume reply) asked → MayAsk (.step request resume) asked

/-- Where anything may be replied, a program asks no more than its terms let it. -/
theorem Program.Abides.asks_of_mayAsk {terms : Terms} {ends : α → Prop} {program : Program α}
    {asked : Request}
    (abides : program.Abides terms ends)
    (anything : ∀ request reply, terms.gives request reply)
    (mayAsk : program.MayAsk asked) : terms.asks asked := by
  induction mayAsk with
  | now request resume => exact abides.1
  | later reply _ inductionHypothesis =>
      exact inductionHypothesis (abides.2 reply (anything _ reply))

/-- What fills a cache lives as long as the service has it live. -/
def fillTerms (service : Service) : Terms where
  asks request := ∀ cacheKey text lifetime, request = .call (.cacheSet cacheKey text lifetime) →
    lifetime = service.layer.lifetime
  gives _ _ := True

theorem letsServe_fillTerms (service : Service) :
    LetsServe (fillTerms service) service fun _ => True where
  free request free cacheKey text lifetime same := by
    subst same
    cases free
  fills := {
    flags := by
      intro environment key flag given cacheKey text lifetime same
      cases same
      rfl
    overrides := by
      intro scope now value given cacheKey text lifetime same
      cases same
      rfl }
  upserts _ _ _ _ _ _ _ same := by cases same
  wrong := .anyhow _
  forbidden _ := trivial

/-- Whatever is asked of a service, it sets entries for one lifetime. -/
theorem lifetime_of_mayAsk {service : Service} {task : Task} {cacheKey text : String}
    {lifetime : Nat}
    (mayAsk : (task.operation service).run.MayAsk (.call (.cacheSet cacheKey text lifetime))) :
    lifetime = service.layer.lifetime := by
  have abides : (task.operation service).Abides (fillTerms service)
      (FailsOnlyBy fun _ => True) := by
    refine task.abides (letsServe_fillTerms service) ?_ fun _ _ => trivial
    intro write expected isWrite passed cacheKey text lifetime same
    cases same
  exact abides.asks_of_mayAsk (fun _ _ => trivial) mayAsk _ _ _ rfl

/--
An override that is found is set for that lifetime: the clock is read, the cache knows nothing,
which is counted, and the store finds the value.
-/
theorem mayAsk_cacheSet (service : Service) {scope : Scope} (valid : scope.check = .ok ())
    (found : OverrideValue) :
    ((Task.getOverride scope).operation service).run.MayAsk
      (.call (.cacheSet (overrideCacheKey scope) (Wire.encode found)
        service.layer.lifetime)) := by
  show Program.MayAsk (Operation.require scope.check >>= fun _ =>
    service.layer.getOverride scope).run _
  rw [valid]
  refine .later Instant.mayDay ?_
  refine .later (.answered none) ?_
  refine .later () ?_
  refine .later (.answered (some found)) ?_
  exact .now _ _

namespace Config

variable {config : Config} {overlay : Overlay}

/--
The channel of a service can be made: the host makes room for the capacity that is asked for, and
it is the room that the bus has.
-/
def CanBegin (config : Config) : Prop :=
  ∀ before : World, Host.room? (max 1 config.bus.channelCapacity) =
    some (before.begin config).bus.capacity

/-- Caches can be filled: whatever is asked and replied, the host tells when an entry expires. -/
def CanFill (config : Config) : Prop :=
  ∀ (task : Task) cacheKey text lifetime,
    (task.operation (InstanceSettings.ofConfig config).service).run.MayAsk
      (.call (.cacheSet cacheKey text lifetime)) →
    ∀ now < Host.horizon, ∀ cache : Cache,
      Host.instantAfter? now lifetime =
        ((cache.set cacheKey text lifetime now).find? cacheKey).map CacheEntry.expiresAt

theorem canBegin_iff (sound : config.IsSound) :
    config.CanBegin ↔ config.bus.channelCapacity < 2 ^ 63 := by
  have atLeastOne : max 1 config.bus.channelCapacity = config.bus.channelCapacity :=
    Nat.max_eq_right sound.channel
  have capacity (before : World) :
      (before.begin config).bus.capacity = (max 1 config.bus.channelCapacity).nextPowerOfTwo :=
    rfl
  unfold CanBegin
  simp only [capacity, atLeastOne, Host.room?_eq_some_iff sound.channel, and_true]
  exact ⟨fun begins => begins { calendar := Instant.mayDay }, fun small _ => small⟩

theorem canFill_iff : config.CanFill ↔ config.cache.lifetime ≤ Host.horizon := by
  have expires (cache : Cache) (cacheKey text : String) (lifetime now : Nat) :
      ((cache.set cacheKey text lifetime now).find? cacheKey).map CacheEntry.expiresAt =
        some (now + lifetime) := by
    rw [Cache.set, Cache.find_put_self, Option.map_some]
  rw [← Host.instantAfter?_eq_some_iff]
  constructor
  · intro fills now early
    have valid : (Scope.tenant "prod" "beta.search" "t1").check = .ok () := by decide
    have mayAsk := mayAsk_cacheSet (InstanceSettings.ofConfig config).service valid ⟨true, none⟩
    rw [← expires (.empty 1)]
    exact fills _ _ _ _ mayAsk now early _
  · intro fits task cacheKey text lifetime mayAsk now early cache
    have same : lifetime = config.cache.lifetime := lifetime_of_mayAsk mayAsk
    rw [expires, same]
    exact fits now early

end Config

namespace Overlay

variable {config : Config} {overlay : Overlay}

/-- What is true of a default is true of a setting when it is true of what is written of it. -/
theorem value_resolve_iff (setting : Setting) (isSuch : setting.Value → Prop)
    (byDefault : isSuch (setting.value {})) :
    isSuch (setting.value overlay.resolve) ↔
      ∀ written, setting.written? overlay = some written →
        isSuch (setting.ofWritten written) := by
  rw [setting.value_resolve]
  cases setting.written? overlay with
  | none => exact iff_of_true byDefault nofun
  | some written =>
      exact ⟨fun such _ same => Option.some.inj same ▸ such, fun such => such written rfl⟩

/--
With a configuration that passes the checks, the host refuses the channel exactly when the capacity
that is written, if any, is beyond its limit, and it can tell when the entries of a cache expire, at
any instant, exactly when the lifetime that is written, if any, is within the horizon.  The checks
know of neither bound.  What else the host may want of memory is not part of this.
-/
theorem stays_within_limits_iff (accepted : overlay.finalize = .ok config) :
    (config.CanBegin ↔
      ∀ capacity : UInt64, Setting.channelCapacity.written? overlay = some capacity →
        capacity.toNat < 2 ^ 63) ∧
    (config.CanFill ↔
      ∀ seconds : UInt64, Setting.cacheLifetime.written? overlay = some seconds →
        seconds.toNat ≤ 2 ^ 62) := by
  obtain ⟨passed, same⟩ := bind_eq_ok_iff.mp accepted
  cases same
  have channel : overlay.resolve.bus.channelCapacity < 2 ^ 63 ↔ _ :=
    @value_resolve_iff overlay .channelCapacity (fun capacity : Nat => capacity < 2 ^ 63)
      (by decide : (256 : Nat) < 2 ^ 63)
  have lifetime : overlay.resolve.cache.lifetime ≤ Host.horizon ↔ _ :=
    @value_resolve_iff overlay .cacheLifetime (fun lifetime : Nat => lifetime ≤ Host.horizon)
      (by decide : (30000 : Nat) ≤ Host.horizon)
  have inSeconds (seconds : UInt64) :
      seconds.toNat * 1000 ≤ Host.horizon ↔ seconds.toNat ≤ 2 ^ 62 :=
    Nat.mul_le_mul_right_iff (by decide)
  rw [Config.canBegin_iff (Config.check_eq_ok_iff.mp passed), Config.canFill_iff]
  refine ⟨channel, lifetime.trans ?_⟩
  exact forall_congr' fun seconds => imp_congr Iff.rfl (inSeconds seconds)

namespace Boundless

/-- Entries that never expire. -/
def lasting : Overlay where
  cache := some { lifetimeSeconds := some 18446744073709551615 }

/-- A channel that keeps every event. -/
def roomy : Overlay where
  bus := some { channelCapacity := some 18446744073709551615 }

/-- The scope of the stored override. -/
def home : Scope :=
  .tenant "prod" "beta.search" "t1"

/-- A process that has just started, over a stored override. -/
def before : World where
  calendar := Instant.mayDay
  database :=
    { overrides := (OverrideTable.upsert {} (.ofNat 1) home true none Instant.mayDay).2 }

/-- What a service asks, built as an overlay has it, when the override is read. -/
def asked (overlay : Overlay) : List Request :=
  let service := (InstanceSettings.ofConfig overlay.resolve).service
  let read := (Task.getOverride home).operation service
  (read.run.exchanges (World.handle 0) (before.begin overlay.resolve)).map Exchange.request

end Boundless

open Boundless in
/--
Both configurations pass the checks.  With the one a service is built, and the first read of a
stored override sets an entry for which there is no instant at which it expires; with the other the
service cannot even be built.
-/
theorem stays_within_limits_iff_boundless :
    Config.load [] (some [("LOOM_TOGGLES_CACHE_TTL_SECS", "18446744073709551615")]) =
        .ok lasting.resolve ∧
      lasting.resolve.CanBegin ∧ ¬lasting.resolve.CanFill ∧
      (asked lasting).any (fun request =>
        match request with
        | .call (.cacheSet _ _ lifetime) =>
            (Host.instantAfter? (before.begin lasting.resolve).clock lifetime).isNone
        | _ => false) ∧
      Config.load [] (some [("LOOM_TOGGLES_BUS_CHANNEL_CAPACITY", "18446744073709551615")]) =
        .ok roomy.resolve ∧
      ¬roomy.resolve.CanBegin ∧ roomy.resolve.CanFill := by
  have lastingPasses : lasting.finalize = .ok lasting.resolve := by decide +kernel
  have roomyPasses : roomy.finalize = .ok roomy.resolve := by decide +kernel
  obtain ⟨lastingBegins, lastingFills⟩ := stays_within_limits_iff lastingPasses
  obtain ⟨roomyBegins, roomyFills⟩ := stays_within_limits_iff roomyPasses
  refine ⟨by decide +kernel, lastingBegins.mpr nofun, fun fills => ?_, by decide +kernel,
    by decide +kernel, fun begins => ?_, roomyFills.mpr nofun⟩
  · exact absurd (lastingFills.mp fills _ rfl) (by decide)
  · exact absurd (roomyBegins.mp begins _ rfl) (by decide)

end Overlay

end Switchboard
