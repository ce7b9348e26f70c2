import Switchboard.Config.Load
import Switchboard.Proofs.Validity.Grammar

namespace Switchboard

/-!
# Layers of configuration

A configuration has fourteen settings in eight sections.  Every setting is told by itself: what an
overlay writes of it, what a configuration has of it, and how one becomes the other.  From overlays
in layers each setting takes what the last of them that writes it says, and the checks see only
the outcome, whichever layers the settings that they compare are from.
-/

/-! ## Settings -/

/-- What an operator may set. -/
inductive Setting where
  | databaseUrl
  | cacheLifetime
  | cacheEntries
  | storeTimeout
  | overrideFailure
  | batchSize
  | flushInterval
  | queueSize
  | channelCapacity
  | topic
  | platformOnlyFlags
  | defaultEnvironment
  | logLevel
  | logJson
  deriving DecidableEq, Repr

namespace Setting

/-- What a source may write of a setting. -/
def Written : Setting → Type
  | databaseUrl | topic | defaultEnvironment | logLevel => String
  | cacheLifetime | cacheEntries | storeTimeout | batchSize | flushInterval | queueSize
  | channelCapacity => UInt64
  | overrideFailure => FailurePolicy
  | platformOnlyFlags => List String
  | logJson => Bool

/-- What a configuration has of a setting. -/
def Value : Setting → Type
  | databaseUrl | topic | defaultEnvironment | logLevel => String
  | cacheLifetime | cacheEntries | storeTimeout | batchSize | flushInterval | queueSize
  | channelCapacity => Nat
  | overrideFailure => FailurePolicy
  | platformOnlyFlags => List String
  | logJson => Bool

/-- What an overlay writes of the setting; it writes nothing in a section that it leaves out. -/
def written? : (setting : Setting) → Overlay → Option setting.Written
  | databaseUrl, overlay => overlay.database.bind (·.url)
  | cacheLifetime, overlay => overlay.cache.bind (·.lifetimeSeconds)
  | cacheEntries, overlay => overlay.cache.bind (·.maxEntries)
  | storeTimeout, overlay => overlay.store.bind (·.timeoutMilliseconds)
  | overrideFailure, overlay => overlay.store.bind (·.overrideFailure)
  | batchSize, overlay => overlay.exposure.bind (·.maxBatchSize)
  | flushInterval, overlay => overlay.exposure.bind (·.flushIntervalSeconds)
  | queueSize, overlay => overlay.exposure.bind (·.maxQueueSize)
  | channelCapacity, overlay => overlay.bus.bind (·.channelCapacity)
  | topic, overlay => overlay.bus.bind (·.topic)
  | platformOnlyFlags, overlay => overlay.platform.bind (·.platformOnlyFlags)
  | defaultEnvironment, overlay => overlay.evaluation.bind (·.defaultEnvironment)
  | logLevel, overlay => overlay.logging.bind (·.level)
  | logJson, overlay => overlay.logging.bind (·.json)

/-- What the configuration has of the setting. -/
def value : (setting : Setting) → Config → setting.Value
  | databaseUrl, config => config.database.url
  | cacheLifetime, config => config.cache.lifetime
  | cacheEntries, config => config.cache.maxEntries
  | storeTimeout, config => config.store.timeout
  | overrideFailure, config => config.store.overrideFailure
  | batchSize, config => config.exposure.maxBatchSize
  | flushInterval, config => config.exposure.flushInterval
  | queueSize, config => config.exposure.maxQueueSize
  | channelCapacity, config => config.bus.channelCapacity
  | topic, config => config.bus.topic
  | platformOnlyFlags, config => config.platform.platformOnlyFlags
  | defaultEnvironment, config => config.evaluation.defaultEnvironment
  | logLevel, config => config.logging.level
  | logJson, config => config.logging.json

/-- What becomes of what was written; seconds become milliseconds. -/
def ofWritten : (setting : Setting) → setting.Written → setting.Value
  | cacheLifetime, (seconds : UInt64) | flushInterval, (seconds : UInt64) => seconds.toNat * 1000
  | cacheEntries, (count : UInt64) | storeTimeout, (count : UInt64) | batchSize, (count : UInt64)
  | queueSize, (count : UInt64) | channelCapacity, (count : UInt64) => count.toNat
  | databaseUrl, text | topic, text | defaultEnvironment, text | logLevel, text => text
  | overrideFailure, policy => policy
  | platformOnlyFlags, flags => flags
  | logJson, json => json

/-- The settings make up the configuration. -/
theorem config_ext {config other : Config}
    (same : ∀ setting, value setting config = value setting other) :
    config = other := by
  obtain ⟨⟨_⟩, ⟨_, _⟩, ⟨_, _⟩, ⟨_, _, _⟩, ⟨_, _⟩, ⟨_⟩, ⟨_⟩, ⟨_, _⟩⟩ := config
  obtain ⟨⟨_⟩, ⟨_, _⟩, ⟨_, _⟩, ⟨_, _, _⟩, ⟨_, _⟩, ⟨_⟩, ⟨_⟩, ⟨_, _⟩⟩ := other
  simp only [Config.mk.injEq, DatabaseConfig.mk.injEq, CacheConfig.mk.injEq, StoreConfig.mk.injEq,
    QueueSettings.mk.injEq, BusConfig.mk.injEq, PlatformConfig.mk.injEq, EvaluationConfig.mk.injEq,
    LoggingConfig.mk.injEq]
  exact ⟨same databaseUrl, ⟨same cacheLifetime, same cacheEntries⟩,
    ⟨same storeTimeout, same overrideFailure⟩,
    ⟨same batchSize, same flushInterval, same queueSize⟩, ⟨same channelCapacity, same topic⟩,
    same platformOnlyFlags, same defaultEnvironment, same logLevel, same logJson⟩

/-! ## Two layers -/

private theorem bind_merge {Section : Type} {merge : Section → Section → Section}
    {field : Section → Option α}
    (prefers : ∀ below above, field (merge below above) = (field above).or (field below))
    (below above : Option Section) :
    (below.merge merge above).bind field = (above.bind field).or (below.bind field) := by
  cases below with
  | none => simp
  | some low =>
      cases above with
      | none => simp
      | some high => exact prefers low high

/-- Of two overlays the upper one is asked first. -/
theorem written?_merge (setting : Setting) (below above : Overlay) :
    setting.written? (below.merge above) =
      (setting.written? above).or (setting.written? below) := by
  cases setting <;> exact bind_merge (fun _ _ => rfl) _ _

section Section

variable {Section : Type} {unset : Section} (field : Section → Option α)
  (absent : field unset = none)
  (present : Option Section)

include absent

private theorem section_elim (default : β) (read : α → β) :
    (field (present.getD unset)).elim default read = (present.bind field).elim default read := by
  cases present with
  | none => rw [Option.getD_none, absent, Option.bind_none]
  | some given => rfl

private theorem section_getD (default : α) :
    (field (present.getD unset)).getD default = (present.bind field).elim default id := by
  rw [← section_elim field absent]
  cases field (present.getD unset) with
  | none => rfl
  | some written => rfl

end Section

/-- A setting that is not written has its default. -/
theorem value_resolve (setting : Setting) (overlay : Overlay) :
    setting.value overlay.resolve =
      (setting.written? overlay).elim (setting.value {}) setting.ofWritten := by
  cases setting with
  | databaseUrl => exact section_getD DatabaseOverlay.url rfl overlay.database _
  | cacheLifetime => exact section_elim CacheOverlay.lifetimeSeconds rfl overlay.cache _ _
  | cacheEntries => exact section_elim CacheOverlay.maxEntries rfl overlay.cache _ _
  | storeTimeout => exact section_elim StoreOverlay.timeoutMilliseconds rfl overlay.store _ _
  | overrideFailure => exact section_getD StoreOverlay.overrideFailure rfl overlay.store _
  | batchSize => exact section_elim ExposureOverlay.maxBatchSize rfl overlay.exposure _ _
  | flushInterval =>
      exact section_elim ExposureOverlay.flushIntervalSeconds rfl overlay.exposure _ _
  | queueSize => exact section_elim ExposureOverlay.maxQueueSize rfl overlay.exposure _ _
  | channelCapacity => exact section_elim BusOverlay.channelCapacity rfl overlay.bus _ _
  | topic => exact section_getD BusOverlay.topic rfl overlay.bus _
  | platformOnlyFlags => exact section_getD PlatformOverlay.platformOnlyFlags rfl overlay.platform _
  | defaultEnvironment =>
      exact section_getD EvaluationOverlay.defaultEnvironment rfl overlay.evaluation _
  | logLevel => exact section_getD LoggingOverlay.level rfl overlay.logging _
  | logJson => exact section_getD LoggingOverlay.json rfl overlay.logging _

/-! ## Many layers -/

variable {setting : Setting} {overlays : List Overlay}

private theorem written?_foldl (setting : Setting) (overlays : List Overlay) (start : Overlay) :
    setting.written? (overlays.foldl Overlay.merge start) =
      (overlays.reverse.findSome? setting.written?).or (setting.written? start) := by
  induction overlays generalizing start with
  | nil => rfl
  | cons overlay rest inductionHypothesis =>
      rw [List.foldl_cons, inductionHypothesis, written?_merge, List.reverse_cons,
        List.findSome?_append, Option.or_assoc, List.findSome?_singleton]

private theorem written?_empty (setting : Setting) : setting.written? {} = none := by
  cases setting <;> rfl

/-- The layers are asked from the top. -/
theorem written?_mergeAll (setting : Setting) (overlays : List Overlay) :
    setting.written? (Overlay.mergeAll overlays) =
      overlays.reverse.findSome? setting.written? := by
  unfold Overlay.mergeAll
  rw [written?_foldl, written?_empty, Option.or_none]

/-- The last overlay that writes the setting writes this. -/
def LastWritten (setting : Setting) (overlays : List Overlay) (written : setting.Written) : Prop :=
  ∃ below overlay above, overlays = below ++ overlay :: above ∧
    setting.written? overlay = some written ∧ ∀ later ∈ above, setting.written? later = none

/-- No overlay writes the setting. -/
def Unwritten (setting : Setting) (overlays : List Overlay) : Prop :=
  ∀ overlay ∈ overlays, setting.written? overlay = none

theorem written?_mergeAll_eq_some_iff {written : setting.Written} :
    setting.written? (Overlay.mergeAll overlays) = some written ↔
      setting.LastWritten overlays written := by
  rw [written?_mergeAll, List.findSome?_eq_some_iff]
  constructor
  · rintro ⟨above, overlay, below, layers, writes, silent⟩
    refine ⟨below.reverse, overlay, above.reverse, ?_, writes, by simpa using silent⟩
    simpa using congrArg List.reverse layers
  · rintro ⟨below, overlay, above, rfl, writes, silent⟩
    exact ⟨above.reverse, overlay, below.reverse, by simp, writes, by simpa using silent⟩

theorem written?_mergeAll_eq_none_iff :
    setting.written? (Overlay.mergeAll overlays) = none ↔ setting.Unwritten overlays := by
  rw [written?_mergeAll, List.findSome?_eq_none_iff]
  simp only [List.mem_reverse, Unwritten]

end Setting

namespace Overlay

/-! ## Grouping -/

private theorem section_merge_assoc {Section : Type} {merge : Section → Section → Section}
    (assoc : ∀ low middle high, merge (merge low middle) high = merge low (merge middle high))
    (low middle high : Option Section) :
    (low.merge merge middle).merge merge high = low.merge merge (middle.merge merge high) :=
  have : Std.Associative merge := ⟨assoc⟩
  (Option.associative_merge merge).assoc low middle high

/-- Layers may be grouped in any way. -/
theorem merge_assoc (low middle high : Overlay) :
    (low.merge middle).merge high = low.merge (middle.merge high) := by
  simp only [merge, Overlay.mk.injEq]
  refine ⟨?_, ?_, ?_, ?_, ?_, ?_, ?_, ?_⟩
  all_goals
    refine section_merge_assoc (fun below between above => ?_) _ _ _
    simp only [DatabaseOverlay.merge, CacheOverlay.merge, StoreOverlay.merge,
      ExposureOverlay.merge, BusOverlay.merge, PlatformOverlay.merge, EvaluationOverlay.merge,
      LoggingOverlay.merge, Option.or_assoc]

/-- An overlay over the empty one stays as it is. -/
theorem empty_merge (overlay : Overlay) : merge {} overlay = overlay := by
  simp [merge]

/-- The empty overlay over another changes nothing. -/
theorem merge_empty (overlay : Overlay) : overlay.merge {} = overlay := by
  simp [merge]

private theorem foldl_merge (start : Overlay) (overlays : List Overlay) :
    overlays.foldl merge start = start.merge (mergeAll overlays) := by
  unfold mergeAll
  induction overlays generalizing start with
  | nil => exact (merge_empty start).symm
  | cons overlay rest inductionHypothesis =>
      rw [List.foldl_cons, List.foldl_cons, inductionHypothesis,
        inductionHypothesis (merge {} overlay), empty_merge, merge_assoc]

/-- Two stacks of layers may be merged one by one or as two. -/
theorem mergeAll_append (lower upper : List Overlay) :
    mergeAll (lower ++ upper) = (mergeAll lower).merge (mergeAll upper) := by
  rw [← foldl_merge]
  exact List.foldl_append

end Overlay

namespace Config

variable {config : Config} {overlays : List Overlay}

/-! ## Checks -/

/-- What the checks ask of a configuration. -/
structure IsSound (config : Config) : Prop where
  lifetime : 0 < config.cache.lifetime
  timeout : 0 < config.store.timeout
  batch : 0 < config.exposure.maxBatchSize
  queue : config.exposure.maxBatchSize ≤ config.exposure.maxQueueSize
  channel : 0 < config.bus.channelCapacity
  environment : IsEnvironmentName config.evaluation.defaultEnvironment

private theorem checkPositive_eq_ok_iff {name : String} {value : Nat} :
    checkPositive name value = .ok () ↔ 0 < value := by
  unfold checkPositive
  cases value with
  | zero => simp
  | succ below => simp

private theorem environment_eq_ok_iff {name : String} :
    (if (!isEnvironment name) = true then throw .invalidEnvironment
      else pure () : Except ConfigError Unit) = .ok () ↔ IsEnvironmentName name := by
  rw [← isEnvironment_iff]
  cases isEnvironment name with
  | true => simp [pure, Except.pure]
  | false => simp [throw, throwThe, MonadExceptOf.throw]

/-- A configuration passes the checks exactly when it is sound. -/
theorem check_eq_ok_iff : config.check = .ok () ↔ config.IsSound := by
  unfold check
  simp only [bind_eq_ok_iff, checkPositive_eq_ok_iff]
  by_cases small : config.exposure.maxQueueSize < config.exposure.maxBatchSize
  · rw [if_pos small]
    refine iff_of_false (fun passed => ?_) fun sound => Nat.not_le_of_lt small sound.queue
    cases passed.2.2.2
  · rw [if_neg small, bind_eq_ok_iff, checkPositive_eq_ok_iff, environment_eq_ok_iff]
    constructor
    · rintro ⟨lifetime, timeout, batch, channel, environment⟩
      exact ⟨lifetime, timeout, batch, Nat.le_of_not_lt small, channel, environment⟩
    · intro sound
      exact ⟨sound.lifetime, sound.timeout, sound.batch, sound.channel, sound.environment⟩

/-! ## What layers amount to -/

/-- Each setting has what the last overlay that writes it says, and its default if none does. -/
structure FollowsLast (config : Config) (overlays : List Overlay) : Prop where
  written : ∀ (setting : Setting) written, setting.LastWritten overlays written →
    setting.value config = setting.ofWritten written
  unwritten : ∀ setting : Setting, setting.Unwritten overlays →
    setting.value config = setting.value {}

/-- Layers follow the last of them. -/
theorem followsLast_resolve (overlays : List Overlay) :
    (Overlay.mergeAll overlays).resolve.FollowsLast overlays where
  written setting written isLast := by
    rw [setting.value_resolve, Setting.written?_mergeAll_eq_some_iff.mpr isLast, Option.elim_some]
  unwritten setting silent := by
    rw [setting.value_resolve, Setting.written?_mergeAll_eq_none_iff.mpr silent, Option.elim_none]

/-- Only one configuration does. -/
theorem FollowsLast.eq {other : Config} (follows : config.FollowsLast overlays)
    (otherFollows : other.FollowsLast overlays) :
    config = other := by
  refine Setting.config_ext fun setting => ?_
  cases asked : setting.written? (Overlay.mergeAll overlays) with
  | none =>
      have silent := Setting.written?_mergeAll_eq_none_iff.mp asked
      rw [follows.unwritten setting silent, otherFollows.unwritten setting silent]
  | some written =>
      have isLast := Setting.written?_mergeAll_eq_some_iff.mp asked
      rw [follows.written setting written isLast, otherFollows.written setting written isLast]

/-- The layers give a configuration exactly when the one that follows the last of them is sound. -/
theorem finalize_eq_ok_iff :
    (Overlay.mergeAll overlays).finalize = .ok config ↔
      config.FollowsLast overlays ∧ config.IsSound := by
  have resolved := followsLast_resolve overlays
  unfold Overlay.finalize
  rw [bind_eq_ok_iff, check_eq_ok_iff]
  constructor
  · rintro ⟨sound, same⟩
    cases same
    exact ⟨resolved, sound⟩
  · rintro ⟨follows, sound⟩
    cases follows.eq resolved
    exact ⟨sound, rfl⟩

/--
Overlays may be grouped in any way and empty ones left out.  There is one configuration in which
each setting has what the last overlay that writes it says, or its default if none does; the
overlays give this configuration if it passes all the checks, and otherwise none.
-/
theorem layers_follow_the_last (overlays : List Overlay) :
    (∀ low middle high : Overlay,
      (low.merge middle).merge high = low.merge (middle.merge high)) ∧
      (∀ overlay : Overlay, Overlay.merge {} overlay = overlay ∧ overlay.merge {} = overlay) ∧
        (∃! merged : Config, merged.FollowsLast overlays) ∧
          ∀ config, (Overlay.mergeAll overlays).finalize = .ok config ↔
            config.FollowsLast overlays ∧ config.IsSound := by
  have one : ∃! merged : Config, merged.FollowsLast overlays :=
    ⟨(Overlay.mergeAll overlays).resolve, followsLast_resolve overlays,
      fun other follows => follows.eq (followsLast_resolve overlays)⟩
  exact ⟨Overlay.merge_assoc, fun overlay => ⟨overlay.empty_merge, overlay.merge_empty⟩, one,
    fun config => finalize_eq_ok_iff⟩

/-- A batch may be larger than the default queue when another layer makes the queue larger. -/
example :
    (Overlay.mergeAll
      [{ exposure := some { maxBatchSize := some 20000 }, cache := some {} },
        { exposure := some { flushIntervalSeconds := some 5 } },
        { exposure := some { maxQueueSize := some 20000 }, cache := some {} }]).finalize =
      .ok { exposure := ⟨20000, 5000, 20000⟩ } := by
  decide +kernel

/-! ## Files and variables -/

/-- The overlays of files and, if they count, of the variables over them. -/
def sources (files : List ConfigFile) (assigned? : Option Variables) :
    Except ConfigError (List Overlay) := do
  let below ← files.mapM ConfigFile.overlay
  match assigned? with
  | none => return below
  | some assigned =>
      let above ← Overlay.ofVariables assigned
      return below ++ [above]

/-- Files and variables are loaded as one stack of layers. -/
theorem load_eq (files : List ConfigFile) (assigned? : Option Variables) :
    load files assigned? =
      sources files assigned? >>= fun overlays => (Overlay.mergeAll overlays).finalize := by
  unfold load overlayFiles sources
  cases files.mapM ConfigFile.overlay with
  | error error => rfl
  | ok below =>
      cases assigned? with
      | none => rfl
      | some assigned =>
          cases read : Overlay.ofVariables assigned with
          | error error => simp only [bind, Except.bind, pure, Except.pure, read]
          | ok above =>
              have merged : Overlay.mergeAll (below ++ [above]) =
                  (Overlay.mergeAll below).merge above := by
                rw [Overlay.mergeAll_append]
                exact congrArg _ above.empty_merge
              simp only [bind, Except.bind, pure, Except.pure, read, merged]

/-- What is loaded follows the last source of each setting. -/
theorem load_eq_ok_iff {files : List ConfigFile} {assigned? : Option Variables} :
    load files assigned? = .ok config ↔
      ∃ overlays, sources files assigned? = .ok overlays ∧
        config.FollowsLast overlays ∧ config.IsSound := by
  rw [load_eq]
  cases sources files assigned? with
  | error error => simp [bind, Except.bind]
  | ok overlays => simp [bind, Except.bind, finalize_eq_ok_iff]

end Config

end Switchboard
