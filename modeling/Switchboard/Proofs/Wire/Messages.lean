import Switchboard.Proofs.Wire.Overrides
import Switchboard.Wire.Invalidation
import Switchboard.Wire.Resolution

namespace Switchboard

open FaithfulWire

/-!
# Wire forms of messages are read back

What callers send and get, and what instances tell each other: contexts, resolutions,
exposure records and invalidations.  A kind stands before what depends on it, so the
reader of an invalidation sets nothing aside; the one of a reason does, and what it sets
aside is a number that it can hold.

Main statement: every value that travels is read as it was written where a clock shows
its instants, and nowhere else.
-/

instance : FaithfulWire Context where
  isPlain_toJson context := by
    apply Json.isPlain_sparse
    intro member isMember
    simp only [List.mem_cons, List.not_mem_nil, or_false] at isMember
    rcases isMember with rfl | rfl | rfl | rfl | rfl | rfl | rfl
    · exact isPlain_map context.userId
    · exact isPlain_map context.tenantId
    · exact isPlain_map context.email
    · exact isPlain_map context.country
    · exact isPlain_map context.tenantTags
    · exact isPlain_map context.plan
    · exact isPlain_map context.now
  ofJson_toJson context := by
    unfold Wire.ofJson? instWireContext
    dsimp only
    rw [Json.fields_sparse rfl (by decide)]
    simp [nullable_map]
    rfl
  toJson_ne_null _ := Json.noConfusion

namespace Invalidation

private theorem isPlain_dataJson (event : Invalidation) : event.dataJson.isPlain = true := by
  cases event with
  | flagUpdated environment key version timestamp =>
      apply Json.isPlain_record
      intro member isMember
      simp only [List.mem_cons, List.not_mem_nil, or_false] at isMember
      rcases isMember with rfl | rfl | rfl | rfl
      · exact isPlain_toJson environment
      · exact isPlain_toJson key
      · exact isPlain_toJson version
      · exact isPlain_toJson timestamp
  | overrideChanged scope timestamp =>
      apply Json.isPlain_record
      intro member isMember
      simp only [List.mem_cons, List.not_mem_nil, or_false] at isMember
      rcases isMember with rfl | rfl | rfl | rfl | rfl
      · exact isPlain_toJson scope.environment
      · exact isPlain_toJson scope.key
      · exact isPlain_toJson scope.kind
      · exact isPlain_toJson scope.holder
      · exact isPlain_toJson timestamp

/-- The content of an invalidation is read where it was not set aside. -/
private theorem ofData_dataJson (event : Invalidation) :
    ofData? false event.eventType event.dataJson = some (Dated.shown event) := by
  cases event with
  | flagUpdated environment key version timestamp =>
      have read : Json.fields? flagFields
          (dataJson (.flagUpdated environment key version timestamp)) =
            some [some (Wire.toJson environment), some (Wire.toJson key),
              some (Wire.toJson version), some (Wire.toJson timestamp)] :=
        Json.fields_record rfl (by decide)
      simp [ofData?, eventType, read, required_toJson]
      rfl
  | overrideChanged scope timestamp =>
      have read : Json.fields? overrideFields (dataJson (.overrideChanged scope timestamp)) =
          some [some (Wire.toJson scope.environment), some (Wire.toJson scope.key),
            some (Wire.toJson scope.kind), some (Wire.toJson scope.holder),
            some (Wire.toJson timestamp)] :=
        Json.fields_record rfl (by decide)
      simp [ofData?, eventType, read, required_toJson, Json.required, ofJson_toJson]
      rfl

end Invalidation

instance : FaithfulWire Invalidation where
  isPlain_toJson event := by
    apply Json.isPlain_record
    intro member isMember
    simp only [List.mem_cons, List.not_mem_nil, or_false] at isMember
    rcases isMember with rfl | rfl
    · rfl
    · exact event.isPlain_dataJson
  ofJson_toJson event := event.ofData_dataJson
  toJson_ne_null _ := Json.noConfusion

namespace Reason

/-- The index of the rule that decided is one that a machine word can hold. -/
def FitsWord : Reason → Prop
  | .ruleMatch index => index < 2 ^ indexBits
  | _ => True

private theorem isFinite_of_fitsWord {index : Nat} (fits : (ruleMatch index).FitsWord) :
    Json.Number.isFinite (.integer index) = true := by
  have word : index < 2 ^ (64 : Nat) := fits
  have digits : (Text.decimal index).length ≤ 309 :=
    (Nat.length_toDigits_le_iff (by decide) (by decide)).mpr
      (Nat.lt_of_lt_of_le word (by decide +kernel))
  have range : index < 2 ^ (1024 : Nat) - 2 ^ (970 : Nat) :=
    Nat.lt_of_lt_of_le word (by decide +kernel)
  simp only [Json.Number.isFinite, Json.digitCount, Int.natAbs_natCast, Bool.and_eq_true]
  exact ⟨decide_eq_true digits, decide_eq_true range⟩

private theorem isPlain_toJson (reason : Reason) : (Wire.toJson reason).isPlain = true := by
  cases reason <;> rfl

/-- A reason is read at whatever depth it stands. -/
private theorem ofJsonWithin_toJson {reason : Reason} (fits : reason.FitsWord) (depth : Nat) :
    ofJsonWithin? depth (Wire.toJson reason) = some reason := by
  cases reason with
  | userOverride => rfl
  | tenantOverride => rfl
  | default => rfl
  | flagNotFound => rfl
  | ruleMatch index =>
      have inRange : (index : Int) ≤ 2 ^ indexBits - 1 := by
        have word : (index : Int) < ((2 ^ indexBits : Nat) : Int) := Int.ofNat_lt.mpr fits
        rw [Int.natCast_pow] at word
        exact Int.le_sub_one_of_lt word
      have read : Json.nat? indexBits (Json.nat index) = some index := by
        simp [Json.nat?, Json.nat, Json.intBetween?, inRange]
      have reads : ofMembers? "rule_match" [(some "rule_index", Json.nat index)] =
          some (ruleMatch index) := by
        simp [ofMembers?, Json.member?, Json.required, read]
      have holds : Json.holdableMembers (Json.roomWithin (depth + 1))
          [(some "rule_index", Json.nat index)] = true := by
        simp [Json.holdableMembers, Json.nat, Json.holdable, isFinite_of_fitsWord fits]
      have form : Wire.toJson (ruleMatch index) =
          .object [(some "type", Json.text "rule_match"), (some "rule_index", Json.nat index)] :=
        rfl
      have kind : Json.member?
          [(some "type", Json.text "rule_match"), (some "rule_index", Json.nat index)] "type" =
            some (some (Json.text "rule_match")) :=
        rfl
      rw [form, ofJsonWithin?, kind]
      simp [Json.required, Json.text, Json.text?, holds, reads]

end Reason

namespace Resolution

private theorem isPlain_toJson (resolution : Resolution) :
    (Wire.toJson resolution).isPlain = true := by
  apply Json.isPlain_record
  intro member isMember
  simp only [List.mem_cons, List.not_mem_nil, or_false] at isMember
  rcases isMember with rfl | rfl
  · exact FaithfulWire.isPlain_toJson resolution.value
  · exact resolution.reason.isPlain_toJson

private theorem ofJson_toJson {resolution : Resolution} (fits : resolution.reason.FitsWord) :
    Wire.ofJson? (Wire.toJson resolution) = some resolution := by
  unfold Wire.ofJson? instWireResolution
  dsimp only
  rw [Json.fields_record rfl (by decide)]
  simp [required_toJson, Json.required, Reason.ofJsonWithin_toJson fits]

end Resolution

namespace Exposure

private theorem isPlain_toJson (record : Exposure) : (Wire.toJson record).isPlain = true := by
  apply Json.isPlain_record
  intro member isMember
  simp only [List.mem_cons, List.not_mem_nil, or_false] at isMember
  rcases isMember with rfl | rfl | rfl | rfl | rfl | rfl | rfl
  · exact FaithfulWire.isPlain_toJson record.environment
  · exact FaithfulWire.isPlain_toJson record.key
  · exact FaithfulWire.isPlain_toJson record.value
  · exact record.reason.isPlain_toJson
  · exact isPlain_optional record.userId
  · exact isPlain_optional record.tenantId
  · exact FaithfulWire.isPlain_toJson record.timestamp

private theorem ofJson_toJson {record : Exposure} (fits : record.reason.FitsWord) :
    Wire.ofJson? (Wire.toJson record) = some (Dated.shown record) := by
  unfold Wire.ofJson? instWireExposure
  dsimp only
  rw [Json.fields_record rfl (by decide)]
  simp [required_toJson, nullable_optional, Json.required, Reason.ofJsonWithin_toJson fits]
  rfl

end Exposure

namespace Wire

/-- The values of a type that are read as they were written. -/
def ReadsBack [Wire α] (value : α) : Prop :=
  decode? (encode value) = some value

/-- A value reads back when the value that is shown of it is the value itself. -/
private theorem readsBack_iff_of [Wire α] [Dated α] {value : α}
    (read : decode? (encode value) = some (Dated.shown value)) :
    ReadsBack value ↔ Dated.IsShown value := by
  rw [ReadsBack, read, Option.some.injEq, Dated.shown_eq_self_iff]

private theorem readsBack_iff [Wire α] [Dated α] [FaithfulWire α] (value : α) :
    ReadsBack value ↔ Dated.IsShown value :=
  readsBack_iff_of (decode_encode value)

/--
Whatever texts, numbers and instants it is made of, a value that travels is read as it was
written exactly where a clock shows its instants; indices of rules are numbers of a machine
word.  Values without instants are always read so.
-/
theorem travelling_values_read_back :
    (∀ condition : Condition, ReadsBack condition ↔ Dated.IsShown condition) ∧
      (∀ rule : Rule, ReadsBack rule ↔ Dated.IsShown rule) ∧
      (∀ flag : Flag, ReadsBack flag ↔ Dated.IsShown flag) ∧
      (∀ context : Context, ReadsBack context ↔ Dated.IsShown context) ∧
      (∀ scope : Scope, ReadsBack scope) ∧
      (∀ override : Override, ReadsBack override ↔ Dated.IsShown override) ∧
      (∀ state : OverrideValue, ReadsBack state ↔ Dated.IsShown state) ∧
      (∀ event : Invalidation, ReadsBack event ↔ Dated.IsShown event) ∧
      (∀ resolution : Resolution, resolution.reason.FitsWord → ReadsBack resolution) ∧
      (∀ record : Exposure, record.reason.FitsWord →
        (ReadsBack record ↔ Dated.IsShown record)) := by
  refine ⟨readsBack_iff, readsBack_iff, readsBack_iff, readsBack_iff, decode_encode,
    readsBack_iff, readsBack_iff, readsBack_iff, ?_, ?_⟩
  · intro resolution fits
    exact decode_encode_of resolution.isPlain_toJson (Resolution.ofJson_toJson fits)
  · intro record fits
    exact readsBack_iff_of (decode_encode_of record.isPlain_toJson (Exposure.ofJson_toJson fits))

namespace Extreme

/-- The leap second at the end of the last day of the calendar, but for a nanosecond. -/
def lastInstant : Instant :=
  ⟨⟨262142, 12, 31, by decide⟩, 86399, 1999999999, by decide⟩

/-- An exposure then, of the last rule that a machine word can count. -/
def record : Exposure where
  environment := "\"prod\"\n"
  key := ""
  value := true
  reason := .ruleMatch 18446744073709551615
  userId := some "\\\t😀"
  tenantId := none
  timestamp := lastInstant

end Extreme

/-- A record at the ends of its ranges is read back. -/
theorem travelling_values_read_back_extreme :
    Extreme.record.reason.FitsWord ∧ ReadsBack Extreme.record := by
  have fits : Extreme.record.reason.FitsWord := by
    show 18446744073709551615 < 2 ^ 64
    decide
  have isShown : Extreme.lastInstant.IsShown := by decide
  obtain ⟨_, _, _, _, _, _, _, _, _, records⟩ := travelling_values_read_back
  exact ⟨fits, (records _ fits).mpr isShown⟩

/-- A window that opens in a leap second within a minute is read back as another one. -/
theorem window_withinMinute_misses_readBack :
    ¬ReadsBack (Condition.timeWindow (some .withinMinute) none) := by
  rw [readsBack_iff]
  rintro ⟨opensShown, _⟩
  have within : ¬Instant.withinMinute.IsShown := by decide
  exact within (opensShown _ rfl)

end Wire

end Switchboard
