namespace Switchboard

/-!
# Sets of text

Finite sets of text in increasing order without repetition, so that equal sets
are equal values and writing a set has one result.  Main statement: a text is in
the set of a list exactly when it is in the list.
-/

namespace Text

/-- Put a text into its place in an increasing list, unless it is there. -/
def insertSorted (text : String) : List String → List String
  | [] => [text]
  | first :: rest =>
      if text < first then text :: first :: rest
      else if text = first then first :: rest
      else first :: insertSorted text rest

/-- Insertion adds the text and nothing else. -/
theorem mem_insertSorted {text other : String} {members : List String} :
    other ∈ insertSorted text members ↔ other = text ∨ other ∈ members := by
  induction members with
  | nil => simp [insertSorted]
  | cons first rest inductionHypothesis =>
      unfold insertSorted
      split
      · simp
      · split
        · rename_i equal
          subst equal
          simp
        · simp only [List.mem_cons, inductionHypothesis]
          constructor
          · rintro (same | same | same) <;> simp [same]
          · rintro (same | same | same) <;> simp [same]

/-- Insertion keeps the order strict. -/
theorem pairwise_insertSorted {text : String} {members : List String}
    (sorted : members.Pairwise (· < ·)) :
    (insertSorted text members).Pairwise (· < ·) := by
  induction members with
  | nil => simp [insertSorted]
  | cons first rest inductionHypothesis =>
      obtain ⟨firstLeast, restSorted⟩ := List.pairwise_cons.mp sorted
      unfold insertSorted
      split
      · rename_i before
        refine List.pairwise_cons.mpr ⟨?_, sorted⟩
        intro other member
        rcases List.mem_cons.mp member with same | later
        · exact same ▸ before
        · exact String.lt_trans before (firstLeast other later)
      · rename_i notBefore
        split
        · exact sorted
        · rename_i different
          refine List.pairwise_cons.mpr ⟨?_, inductionHypothesis restSorted⟩
          intro other member
          rcases mem_insertSorted.mp member with same | later
          · subst same
            rcases String.le_total other first with below | above
            · exact absurd (Std.le_antisymm below (Std.not_lt.mp notBefore)) different
            · exact Std.lt_of_le_of_ne above (fun same => different same.symm)
          · exact firstLeast other later

end Text

/-- A finite set of text, held in increasing order. -/
structure TextSet where
  members : List String
  sorted : members.Pairwise (· < ·)
  deriving DecidableEq

namespace TextSet

instance : Repr TextSet where
  reprPrec set precedence := reprPrec set.members precedence

/-- The set without members. -/
def empty : TextSet :=
  ⟨[], List.Pairwise.nil⟩

/-- The set with one more member. -/
def insert (text : String) (set : TextSet) : TextSet :=
  ⟨Text.insertSorted text set.members, Text.pairwise_insertSorted set.sorted⟩

/-- The set of the members of a list. -/
def ofList (texts : List String) : TextSet :=
  texts.foldr insert empty

/-- Whether a text is a member. -/
def contains (set : TextSet) (text : String) : Bool :=
  set.members.contains text

/-- A text is in the set of a list exactly when it is in the list. -/
theorem mem_ofList {text : String} {texts : List String} :
    text ∈ (ofList texts).members ↔ text ∈ texts := by
  induction texts with
  | nil => simp [ofList, empty]
  | cons first rest inductionHypothesis =>
      simp only [ofList, List.foldr_cons, insert, Text.mem_insertSorted, List.mem_cons]
      rw [← inductionHypothesis]
      rfl

end TextSet

end Switchboard
