import Switchboard.Proofs.Wire.RoundTrip

namespace Switchboard

/-!
# What is read from a text is shown

A text names instants as a clock shows them, so whatever is read from one, a clock shows
its instants: those of conditions, and so those of the rules that a column keeps.
-/

/-- A type of which every value that is read has instants that a clock shows. -/
class ShownWire (α : Type) [Wire α] [Dated α] : Prop where
  isShown_of_ofJson : ∀ {json : Json} {value : α},
    Wire.ofJson? json = some value → Dated.IsShown value

namespace ShownWire

variable {α : Type} [Wire α] [Dated α] [ShownWire α]

/-- What is read from a text is shown. -/
theorem isShown_of_decode {text : String} {value : α}
    (read : Wire.decode? text = some value) :
    Dated.IsShown value := by
  obtain ⟨json, _, ofJson⟩ := Option.bind_eq_some_iff.mp read
  exact isShown_of_ofJson ofJson

/-- A part that may be absent is shown where it is read. -/
theorem isShown_of_nullable {part : Option Json} {value? : Option α}
    (read : Wire.nullable? part = some value?) :
    Dated.IsShown value? := by
  unfold Wire.nullable? Json.nullable at read
  split at read
  · cases read
    exact Dated.isShown_none
  · cases read
    exact Dated.isShown_none
  · obtain ⟨value, ofJson, rfl⟩ := Option.map_eq_some_iff.mp read
    exact Dated.isShown_some.mpr (isShown_of_ofJson ofJson)

end ShownWire

open ShownWire

instance : ShownWire Instant where
  isShown_of_ofJson read := by
    obtain ⟨text, _, readText⟩ := Option.bind_eq_some_iff.mp read
    exact Instant.isShown_of_readLenient readText

private theorem isShown_of_mapM [Wire α] [Dated α] [ShownWire α] {items : List Json}
    {values : List α}
    (read : items.mapM Wire.ofJson? = some values) :
    Dated.IsShown values := by
  induction items generalizing values with
  | nil =>
      cases read
      exact nofun
  | cons item rest inductionHypothesis =>
      simp only [List.mapM_cons, Option.bind_eq_bind, Option.bind_eq_some_iff] at read
      obtain ⟨first, firstRead, later, laterRead, made⟩ := read
      cases made
      intro value member
      rcases List.mem_cons.mp member with rfl | inLater
      · exact isShown_of_ofJson firstRead
      · exact inductionHypothesis laterRead value inLater

instance [Wire α] [Dated α] [ShownWire α] : ShownWire (List α) where
  isShown_of_ofJson {json values} read := by
    cases json with
    | array items => exact isShown_of_mapM read
    | _ => cases read

private theorem isShown_of_ofContent {kind : String} {content : Json} {condition : Condition}
    (read : Condition.ofContent? kind content = some condition) :
    Dated.IsShown condition := by
  unfold Condition.ofContent? at read
  split at read
  case h_5 =>
    split at read
    · simp only [Option.bind_eq_bind, Option.bind_eq_some_iff] at read
      obtain ⟨opens, opensRead, closes, closesRead, made⟩ := read
      cases made
      exact ⟨isShown_of_nullable opensRead, isShown_of_nullable closesRead⟩
    · cases read
  case h_7 => cases read
  all_goals
    obtain ⟨_, _, rfl⟩ := Option.map_eq_some_iff.mp read
    trivial

instance : ShownWire Condition where
  isShown_of_ofJson read := by
    unfold Wire.ofJson? instWireCondition at read
    dsimp only at read
    split at read
    · exact isShown_of_ofContent read
    · cases read

private theorem isShown_of_conditions {part : Option Json} {conditions : List Condition}
    (read : Rule.conditions? part = some conditions) :
    Dated.IsShown conditions := by
  cases part with
  | none =>
      cases read
      exact fun _ member => absurd member List.not_mem_nil
  | some json => exact isShown_of_ofJson (α := List Condition) read

instance : ShownWire Rule where
  isShown_of_ofJson read := by
    unfold Wire.ofJson? instWireRule at read
    dsimp only at read
    split at read
    · simp only [Option.bind_eq_bind, Option.bind_eq_some_iff] at read
      obtain ⟨_, conditionsRead, _, _, made⟩ := read
      cases made
      exact isShown_of_conditions conditionsRead
    · cases read

end Switchboard
