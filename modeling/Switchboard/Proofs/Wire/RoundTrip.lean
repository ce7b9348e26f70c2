import Switchboard.Proofs.Json.RoundTrip
import Switchboard.Proofs.Time.RoundTrip
import Switchboard.Proofs.Wire.Dated
import Switchboard.Wire.Override
import Switchboard.Wire.Targeting

namespace Switchboard

/-!
# Wire forms are read back

What is put into a cache or a column as JSON text comes out as the value that went in,
with its instants as clocks show them.  The law is proved type by type, from the JSON
values upwards, and then for texts.
-/

namespace Json

/-- The members of an object from which the absent ones are left out. -/
def presentMembers (members : List (String × Option Json)) : List (Option String × Json) :=
  members.filterMap fun (name, value?) => value?.map fun value => (some name, value)

@[simp] private theorem presentMembers_nil : presentMembers [] = [] :=
  rfl

@[simp] private theorem presentMembers_none (name : String)
    (rest : List (String × Option Json)) :
    presentMembers ((name, none) :: rest) = presentMembers rest :=
  rfl

@[simp] private theorem presentMembers_some (name : String) (value : Json)
    (rest : List (String × Option Json)) :
    presentMembers ((name, some value) :: rest) = (some name, value) :: presentMembers rest :=
  rfl

private theorem mem_presentMembers {members : List (String × Option Json)}
    {key : Option String} {value : Json}
    (member : (key, value) ∈ presentMembers members) :
    ∃ name, key = some name ∧ (name, some value) ∈ members := by
  obtain ⟨⟨name, value?⟩, origin, isPresent⟩ := List.mem_filterMap.mp member
  obtain ⟨_, rfl, same⟩ := Option.map_eq_some_iff.mp isPresent
  cases same
  exact ⟨name, rfl, origin⟩

private theorem sparse_eq (members : List (String × Option Json)) :
    sparse members = .object (presentMembers members) := by
  simp only [sparse, record, presentMembers, List.map_filterMap, Option.map_map]
  rfl

private theorem member_present {members : List (String × Option Json)} {name : String}
    {value? : Option Json}
    (distinct : (members.map Prod.fst).Nodup)
    (member : (name, value?) ∈ members) :
    member? (presentMembers members) name = some value? := by
  have found :
      (presentMembers members).filter (·.1 == some name) =
        value?.toList.map fun value => (some name, value) := by
    induction members with
    | nil => cases member
    | cons first rest inductionHypothesis =>
        obtain ⟨firstName, firstValue?⟩ := first
        obtain ⟨fresh, restDistinct⟩ := List.nodup_cons.mp distinct
        rcases List.mem_cons.mp member with same | later
        · cases same
          have noMore : (presentMembers rest).filter (·.1 == some name) = [] := by
            apply List.filter_eq_nil_iff.mpr
            rintro ⟨key, value⟩ otherMember sameName
            obtain ⟨other, rfl, origin⟩ := mem_presentMembers otherMember
            have nameSame : other = name := by simpa using sameName
            exact fresh (List.mem_map.mpr ⟨(other, some value), origin, nameSame⟩)
          cases value? with
          | none => simpa using noMore
          | some value => simpa using noMore
        · have different : firstName ≠ name := by
            intro same
            exact fresh (List.mem_map.mpr ⟨(name, value?), later, same.symm⟩)
          have behind := inductionHypothesis restDistinct later
          cases firstValue? with
          | none => exact behind
          | some firstValue => simpa [different] using behind
  rw [member?, found]
  cases value? with
  | none => rfl
  | some value => rfl

/-- A record from which absent members were left out gives the values of all its fields. -/
theorem fields_sparse {fields : List Field} {members : List (String × Option Json)}
    (named : fields.map Field.name = members.map Prod.fst)
    (distinct : (fields.map Field.name).Nodup) :
    fields? fields (sparse members) = some (members.map Prod.snd) := by
  have membersDistinct : (members.map Prod.fst).Nodup := named ▸ distinct
  have readable : keysReadable (presentMembers members) = true := by
    refine List.all_eq_true.mpr ?_
    rintro ⟨key, value⟩ member
    obtain ⟨name, rfl, _⟩ := mem_presentMembers member
    rfl
  have each : ∀ part : List (String × Option Json), (∀ member ∈ part, member ∈ members) →
      (part.map Prod.fst).mapM (member? (presentMembers members)) =
        some (part.map Prod.snd) := by
    intro part within
    induction part with
    | nil => rfl
    | cons first rest inductionHypothesis =>
        have here := member_present membersDistinct (within first (by simp))
        have later := inductionHypothesis fun member inRest =>
          within member (List.mem_cons_of_mem first inRest)
        simp [List.mapM_cons, here, later]
  have whole := each members fun _ member => member
  rw [← named, List.mapM_map] at whole
  rw [sparse_eq]
  simpa [fields?, readable, Function.comp_def] using whole

/-- A record that was written with the fields of its reader gives their values. -/
theorem fields_record {fields : List Field} {members : List (String × Json)}
    (named : fields.map Field.name = members.map Prod.fst)
    (distinct : (fields.map Field.name).Nodup) :
    fields? fields (record members) = some (members.map fun member => some member.2) := by
  have written : record members = sparse (members.map fun member => (member.1, some member.2)) := by
    rw [sparse, List.filterMap_map]
    exact congrArg record List.filterMap_some.symm
  have sameNames : fields.map Field.name =
      (members.map fun member => (member.1, some member.2)).map Prod.fst := by
    simpa [Function.comp_def] using named
  rw [written, fields_sparse sameNames distinct, List.map_map]
  rfl

/-- A record is plain when the values of its members are. -/
theorem isPlain_record {members : List (String × Json)}
    (plain : ∀ member ∈ members, member.2.isPlain = true) :
    (record members).isPlain = true := by
  simp only [record, isPlain]
  induction members with
  | nil => rfl
  | cons first rest inductionHypothesis =>
      have here := plain first (by simp)
      have later := inductionHypothesis fun member inRest =>
        plain member (List.mem_cons_of_mem first inRest)
      simp [arePlainMembers, here, later]

/-- A record from which absent members were left out is plain when the others are. -/
theorem isPlain_sparse {members : List (String × Option Json)}
    (plain : ∀ member ∈ members, ∀ value ∈ member.2, value.isPlain = true) :
    (sparse members).isPlain = true := by
  apply isPlain_record
  rintro ⟨name, value⟩ member
  obtain ⟨origin, inMembers, isPresent⟩ := List.mem_filterMap.mp member
  obtain ⟨_, present, same⟩ := Option.map_eq_some_iff.mp isPresent
  cases same
  exact plain origin inMembers value present

end Json

/-- What a plain form is read as is also read from its text. -/
theorem Wire.decode_encode_of {α : Type} [Wire α] {value arrived : α}
    (plain : (toJson value).isPlain = true)
    (read : ofJson? (toJson value) = some arrived) :
    decode? (encode value) = some arrived := by
  rw [decode?, encode, Json.parse_render plain]
  exact read

/-- A type whose wire forms are read back, with instants as clocks show them. -/
class FaithfulWire (α : Type) [Wire α] [Dated α] : Prop where
  isPlain_toJson : ∀ value : α, (Wire.toJson value).isPlain = true
  ofJson_toJson : ∀ value : α, Wire.ofJson? (Wire.toJson value) = some (Dated.shown value)
  /-- Null stands for absence, so no value is written so. -/
  toJson_ne_null : ∀ value : α, Wire.toJson value ≠ .null

namespace FaithfulWire

variable {α : Type} [Wire α] [Dated α] [FaithfulWire α]

/-- A part that is there is read back. -/
theorem required_toJson (value : α) :
    Wire.required? (some (Wire.toJson value)) = some (Dated.shown value) :=
  ofJson_toJson value

private theorem nullable_toJson (value : α) :
    Wire.nullable? (some (Wire.toJson value)) = some (some (Dated.shown value)) := by
  have notNull := toJson_ne_null value
  have read := ofJson_toJson value
  unfold Wire.nullable? Json.nullable
  split
  · rename_i absent
    cases absent
  · rename_i null
    exact absurd (Option.some.inj null) notNull
  · rename_i present
    cases present
    rw [read]
    rfl

/-- A part that is null where it is absent is read back. -/
theorem nullable_optional (value? : Option α) :
    Wire.nullable? (some (Wire.optional value?)) = some (Dated.shown value?) := by
  cases value? with
  | none => rfl
  | some value => exact nullable_toJson value

/-- A part that is left out where it is absent is read back. -/
theorem nullable_map (value? : Option α) :
    Wire.nullable? (value?.map Wire.toJson) = some (Dated.shown value?) := by
  cases value? with
  | none => rfl
  | some value => exact nullable_toJson value

/-- A part that is null where it is absent is plain. -/
theorem isPlain_optional (value? : Option α) : (Wire.optional value?).isPlain = true := by
  cases value? with
  | none => rfl
  | some value => exact isPlain_toJson value

/-- A part that is left out where it is absent is plain where it is there. -/
theorem isPlain_map (value? : Option α) :
    ∀ value ∈ value?.map Wire.toJson, value.isPlain = true := by
  intro json there
  obtain ⟨value, _, rfl⟩ := Option.map_eq_some_iff.mp there
  exact isPlain_toJson value

/-- Reading what was written gives the value, as it is shown. -/
theorem decode_encode (value : α) :
    Wire.decode? (Wire.encode value) = some (Dated.shown value) :=
  Wire.decode_encode_of (isPlain_toJson value) (ofJson_toJson value)

/-- Reading what was written gives the value itself where a clock shows its instants. -/
theorem decode_encode_of_isShown {value : α} (isShown : Dated.IsShown value) :
    Wire.decode? (Wire.encode value) = some value := by
  rw [decode_encode, Dated.shown_of_isShown isShown]

end FaithfulWire

open FaithfulWire

instance : FaithfulWire String where
  isPlain_toJson _ := rfl
  ofJson_toJson _ := rfl
  toJson_ne_null _ := Json.noConfusion

instance : FaithfulWire Bool where
  isPlain_toJson _ := rfl
  ofJson_toJson _ := rfl
  toJson_ne_null _ := Json.noConfusion

instance : FaithfulWire Int64 where
  isPlain_toJson _ := rfl
  ofJson_toJson value := by
    have low := value.le_toInt
    have high := value.toInt_lt
    have inRange :
        -9223372036854775808 ≤ value.toInt ∧ value.toInt ≤ 9223372036854775807 := by omega
    have read : Json.int64? (Json.int value.toInt) = some value.toInt := if_pos inRange
    simp only [Wire.ofJson?, Wire.toJson, read, Option.map_some, Int64.ofInt_toInt,
      Dated.shown_timeless]
  toJson_ne_null _ := Json.noConfusion

instance : FaithfulWire UInt8 where
  isPlain_toJson _ := rfl
  ofJson_toJson value := by
    have high := value.toNat_lt
    have inRange : (value.toNat : Int) ≤ 255 := by omega
    simp [Wire.ofJson?, Wire.toJson, Json.nat, Json.nat?, Json.intBetween?, inRange]
  toJson_ne_null _ := Json.noConfusion

instance : FaithfulWire Instant where
  isPlain_toJson _ := rfl
  ofJson_toJson instant := by
    simp only [Wire.ofJson?, Wire.toJson, Json.text, Json.text?, Option.bind_some,
      Instant.readLenient_toWire]
    rfl
  toJson_ne_null _ := Json.noConfusion

instance [Wire α] [Dated α] [FaithfulWire α] : FaithfulWire (List α) where
  isPlain_toJson items := by
    simp only [Wire.toJson, Json.isPlain]
    induction items with
    | nil => rfl
    | cons item rest inductionHypothesis =>
        simp [Json.arePlainItems, isPlain_toJson, inductionHypothesis]
  ofJson_toJson items := by
    simp only [Wire.toJson, Wire.ofJson?, Json.list?]
    induction items with
    | nil => rfl
    | cons item rest inductionHypothesis =>
        simp [List.mapM_cons, ofJson_toJson, inductionHypothesis]
        rfl
  toJson_ne_null _ := Json.noConfusion

namespace TextSet

/-- Members that stand in increasing order make up the set that they are. -/
theorem ofList_members (set : TextSet) : ofList set.members = set := by
  obtain ⟨members, sorted⟩ := set
  have same : (ofList members).members = members := by
    induction members with
    | nil => rfl
    | cons first rest inductionHypothesis =>
        obtain ⟨firstLeast, restSorted⟩ := List.pairwise_cons.mp sorted
        have unfolded :
            (ofList (first :: rest)).members = Text.insertSorted first (ofList rest).members :=
          rfl
        rw [unfolded, inductionHypothesis restSorted]
        cases rest with
        | nil => rfl
        | cons second later => simp [Text.insertSorted, firstLeast second (by simp)]
  simp only [ofList] at same ⊢
  exact TextSet.mk.injEq .. ▸ same

end TextSet

instance : FaithfulWire TextSet where
  isPlain_toJson set := isPlain_toJson set.members
  ofJson_toJson set := by
    have members := ofJson_toJson set.members
    simp only [Wire.toJson, Wire.ofJson?] at members ⊢
    simp [members, TextSet.ofList_members]
  toJson_ne_null _ := Json.noConfusion

namespace Condition

private theorem isPlain_contentJson (condition : Condition) :
    condition.contentJson.isPlain = true := by
  cases condition with
  | planIn set => exact isPlain_toJson set
  | countryIn set => exact isPlain_toJson set
  | emailDomainIn set => exact isPlain_toJson set
  | tenantTagIn set => exact isPlain_toJson set
  | percentage threshold => exact isPlain_toJson threshold
  | timeWindow opens closes =>
      apply Json.isPlain_sparse
      intro member isMember
      simp only [List.mem_cons, List.not_mem_nil, or_false] at isMember
      rcases isMember with rfl | rfl
      · exact isPlain_map opens
      · exact isPlain_map closes

private theorem ofContent_contentJson (condition : Condition) :
    ofContent? condition.kind condition.contentJson = some (Dated.shown condition) := by
  cases condition with
  | planIn set => simp [ofContent?, kind, contentJson, ofJson_toJson, Dated.shown]
  | countryIn set => simp [ofContent?, kind, contentJson, ofJson_toJson, Dated.shown]
  | emailDomainIn set => simp [ofContent?, kind, contentJson, ofJson_toJson, Dated.shown]
  | tenantTagIn set => simp [ofContent?, kind, contentJson, ofJson_toJson, Dated.shown]
  | percentage threshold => simp [ofContent?, kind, contentJson, ofJson_toJson, Dated.shown]
  | timeWindow opens closes =>
      have read : Json.fields? windowFields (contentJson (.timeWindow opens closes)) =
          some [opens.map Wire.toJson, closes.map Wire.toJson] :=
        Json.fields_sparse rfl (by decide)
      simp [ofContent?, kind, read, nullable_map]
      rfl

end Condition

instance : FaithfulWire Condition where
  isPlain_toJson condition := by
    apply Json.isPlain_record
    intro member isMember
    rw [List.mem_singleton.mp isMember]
    exact condition.isPlain_contentJson
  ofJson_toJson condition := condition.ofContent_contentJson
  toJson_ne_null _ := Json.noConfusion

instance : FaithfulWire Rule where
  isPlain_toJson rule := by
    apply Json.isPlain_record
    intro member isMember
    simp only [List.mem_cons, List.not_mem_nil, or_false] at isMember
    rcases isMember with rfl | rfl
    · exact isPlain_toJson rule.conditions
    · apply Json.isPlain_record
      intro member isMember
      rw [List.mem_singleton.mp isMember]
      exact isPlain_toJson rule.value
  ofJson_toJson rule := by
    have outcome :
        Rule.outcome? (.record [("value", Wire.toJson rule.value)]) = some rule.value := by
      rw [Rule.outcome?, Json.fields_record rfl (by decide)]
      exact required_toJson rule.value
    have conditions :
        Rule.conditions? (some (Wire.toJson rule.conditions)) =
          some (Dated.shown rule.conditions) :=
      ofJson_toJson rule.conditions
    unfold Wire.ofJson? instWireRule
    dsimp only
    rw [Json.fields_record rfl (by decide)]
    simp [conditions, Json.required, outcome]
    rfl
  toJson_ne_null _ := Json.noConfusion

instance : FaithfulWire Flag where
  isPlain_toJson flag := by
    apply Json.isPlain_record
    intro member isMember
    simp only [List.mem_cons, List.not_mem_nil, or_false] at isMember
    rcases isMember with rfl | rfl | rfl | rfl | rfl | rfl | rfl | rfl
    · exact isPlain_toJson flag.environment
    · exact isPlain_toJson flag.key
    · exact isPlain_toJson flag.enabledDefault
    · exact isPlain_toJson flag.rules
    · exact isPlain_toJson flag.version
    · exact isPlain_optional flag.lastEditorId
    · exact isPlain_toJson flag.createdAt
    · exact isPlain_toJson flag.updatedAt
  ofJson_toJson flag := by
    unfold Wire.ofJson? instWireFlag
    dsimp only
    rw [Json.fields_record rfl (by decide)]
    simp [required_toJson, nullable_optional]
    rfl
  toJson_ne_null _ := Json.noConfusion

instance : FaithfulWire OverrideValue where
  isPlain_toJson state := by
    apply Json.isPlain_record
    intro member isMember
    simp only [List.mem_cons, List.not_mem_nil, or_false] at isMember
    rcases isMember with rfl | rfl
    · exact isPlain_toJson state.value
    · exact isPlain_optional state.expiresAt
  ofJson_toJson state := by
    unfold Wire.ofJson? instWireOverrideValue
    dsimp only
    rw [Json.fields_record rfl (by decide)]
    simp [required_toJson, nullable_optional]
    rfl
  toJson_ne_null _ := Json.noConfusion

end Switchboard
