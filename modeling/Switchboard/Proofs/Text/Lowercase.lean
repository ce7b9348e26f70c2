import Switchboard.Text.Lowercase

namespace Switchboard.Text

/-!
# Lower case is lower case already

No lower case form of a character has another lower case form: the runs of the table send their
letters past each other, and what the two letters with rules of their own become is no capital
letter either.  So where a text is in lower case nothing of it changes, whatever stands around
a letter.
-/

namespace CaseRun

/-- The last of the lower case forms that a run gives. -/
def lowerLast (run : CaseRun) : Nat :=
  run.lowerFirst + (run.last - run.first)

/--
Whether no lower case form that a run gives is a letter of another: the other lies before or
behind them, or takes every second code point and they are those between.
-/
def avoids (run other : CaseRun) : Bool :=
  Nat.blt run.lowerLast other.first || Nat.blt other.last run.lowerFirst ||
    (Nat.beq other.step 2 && (Nat.beq run.step 2 || Nat.beq run.first run.last) &&
      Nat.beq ((run.lowerFirst + other.first) % 2) 1)

/-- Whether the lower case forms that a run gives are characters. -/
def isEncodable (run : CaseRun) : Bool :=
  Nat.blt run.lowerLast 0xd800 ||
    (Nat.blt 0xdfff run.lowerFirst && Nat.blt run.lowerLast 0x110000)

variable {run other : CaseRun} {code lowered : Nat}

/-- What a run gives stands at the place of the letter in the run. -/
theorem lower?_eq_some_iff :
    run.lower? code = some lowered ↔
      (run.first ≤ code ∧ code ≤ run.last ∧ (code - run.first) % run.step = 0) ∧
        run.lowerFirst + (code - run.first) = lowered := by
  unfold lower?
  split
  · rename_i within
    simp [within]
  · rename_i outside
    simp [outside]

theorem between_of_lower? (gives : run.lower? code = some lowered) :
    run.lowerFirst ≤ lowered ∧ lowered ≤ run.lowerLast := by
  obtain ⟨⟨_, below, _⟩, rfl⟩ := lower?_eq_some_iff.mp gives
  unfold lowerLast
  omega

/-- A run that is avoided has no lower case form for what the other gives. -/
theorem lower?_of_avoids (avoids : run.avoids other = true)
    (gives : run.lower? code = some lowered) :
    other.lower? lowered = none := by
  have between := between_of_lower? gives
  obtain ⟨⟨above, below, place⟩, same⟩ := lower?_eq_some_iff.mp gives
  refine Option.eq_none_iff_forall_ne_some.mpr fun again twice => ?_
  obtain ⟨⟨otherAbove, otherBelow, otherPlace⟩, _⟩ := lower?_eq_some_iff.mp twice
  simp only [CaseRun.avoids, Bool.or_eq_true, Bool.and_eq_true, Nat.blt_eq, Nat.beq_eq] at avoids
  rcases avoids with (before | behind) | ⟨⟨second, secondOrSingle⟩, odd⟩
  · omega
  · omega
  · rw [second] at otherPlace
    have even : (code - run.first) % 2 = 0 := by
      rcases secondOrSingle with isSecond | single
      · rwa [isSecond] at place
      · omega
    omega

theorem isValidChar_of_isEncodable (encodable : run.isEncodable = true)
    (gives : run.lower? code = some lowered) :
    lowered.isValidChar := by
  obtain ⟨above, below⟩ := between_of_lower? gives
  simp only [isEncodable, Bool.or_eq_true, Bool.and_eq_true, Nat.blt_eq] at encodable
  rcases encodable with low | ⟨high, inRange⟩
  · exact .inl (by omega)
  · exact .inr ⟨by omega, by omega⟩

end CaseRun

/-! ## The table -/

private theorem avoids_of_mem {run other : CaseRun} (member : run ∈ lowerRuns)
    (otherMember : other ∈ lowerRuns) :
    run.avoids other = true := by
  have all : (lowerRuns.all fun run => lowerRuns.all run.avoids) = true := by decide +kernel
  exact List.all_eq_true.mp (List.all_eq_true.mp all run member) other otherMember

private theorem isEncodable_of_mem {run : CaseRun} (member : run ∈ lowerRuns) :
    run.isEncodable = true := by
  have all : lowerRuns.all CaseRun.isEncodable = true := by decide +kernel
  exact List.all_eq_true.mp all run member

/-- The capital I with a dot is no form of a letter of the table. -/
private theorem ne_dottedCapital_of_mem {run : CaseRun} (member : run ∈ lowerRuns) {code : Nat} :
    run.lower? code ≠ some 'İ'.toNat := by
  have all : (lowerRuns.all fun run =>
      Nat.blt run.lowerLast 'İ'.toNat || Nat.blt 'İ'.toNat run.lowerFirst) = true := by
    decide +kernel
  intro gives
  obtain ⟨above, below⟩ := CaseRun.between_of_lower? gives
  have outside := List.all_eq_true.mp all run member
  simp only [Bool.or_eq_true, Nat.blt_eq] at outside
  omega

/-- The form of a code point that the table does not name is itself. -/
theorem lowerCode_of_unlisted {code : Nat} (unlisted : ∀ run ∈ lowerRuns, run.lower? code = none) :
    lowerCode code = code := by
  have latin := unlisted ⟨65, 90, 1, 97⟩ List.mem_cons_self
  unfold lowerCode
  split
  · rw [if_neg]
    intro capital
    simp [CaseRun.lower?, capital, Nat.mod_one] at latin
  · rw [List.findSome?_eq_none_iff.mpr unlisted]
    rfl

/-- The form of a code point is itself, or is given by a run of the table. -/
theorem lowerCode_cases (code : Nat) :
    lowerCode code = code ∨ ∃ run ∈ lowerRuns, run.lower? code = some (lowerCode code) := by
  unfold lowerCode
  split
  · split
    · rename_i capital
      refine .inr ⟨⟨65, 90, 1, 97⟩, List.mem_cons_self, CaseRun.lower?_eq_some_iff.mpr ⟨?_, ?_⟩⟩
      · exact ⟨capital.1, capital.2, Nat.mod_one _⟩
      · dsimp only
        omega
    · exact .inl rfl
  · cases found : lowerRuns.findSome? fun run => run.lower? code with
    | none => exact .inl rfl
    | some lowered =>
        obtain ⟨run, member, gives⟩ := List.exists_of_findSome?_eq_some found
        exact .inr ⟨run, member, gives⟩

/-- The form of a code point has no other form. -/
theorem lowerCode_lowerCode (code : Nat) : lowerCode (lowerCode code) = lowerCode code := by
  rcases lowerCode_cases code with same | ⟨run, member, gives⟩
  · rw [same, same]
  · exact lowerCode_of_unlisted fun other otherMember =>
      CaseRun.lower?_of_avoids (avoids_of_mem member otherMember) gives

private theorem isValidChar_lowerCode {code : Nat} (valid : code.isValidChar) :
    (lowerCode code).isValidChar := by
  rcases lowerCode_cases code with same | ⟨run, member, gives⟩
  · rwa [same]
  · exact CaseRun.isValidChar_of_isEncodable (isEncodable_of_mem member) gives

/-! ## Texts -/

/-- A character is its own lower case form, whatever stands around it. -/
structure IsLower (c : Char) : Prop where
  ne_sigma : c ≠ 'Σ'
  ne_dotted : c ≠ 'İ'
  lowerCode_eq : lowerCode c.toNat = c.toNat

theorem IsLower.lowerChar_eq {c : Char} (isLower : IsLower c) (before after : List Char) :
    lowerChar before c after = [c] := by
  rw [lowerChar, if_neg isLower.ne_sigma, if_neg isLower.ne_dotted, isLower.lowerCode_eq,
    Char.ofNat_toNat]

private theorem isLower_lowerSigma (before after : List Char) :
    IsLower (lowerSigma before after) := by
  unfold lowerSigma
  split
  · exact ⟨by decide, by decide, by decide +kernel⟩
  · exact ⟨by decide, by decide, by decide +kernel⟩

private theorem isLower_ofNat_lowerCode {c : Char} (noDotted : c ≠ 'İ') :
    IsLower (Char.ofNat (lowerCode c.toNat)) := by
  have valid : (lowerCode c.toNat).isValidChar := isValidChar_lowerCode c.valid
  have stays : (Char.ofNat (lowerCode c.toNat)).toNat = lowerCode c.toNat := by
    rw [Char.ofNat, dif_pos valid]
    rfl
  refine ⟨fun isSigma => ?_, fun isDotted => ?_, ?_⟩
  · rw [isSigma] at stays
    have fixed := lowerCode_lowerCode c.toNat
    rw [← stays] at fixed
    exact absurd fixed (by decide +kernel)
  · rw [isDotted] at stays
    rcases lowerCode_cases c.toNat with same | ⟨run, member, gives⟩
    · exact noDotted (Char.toNat_inj.mp (same.symm.trans stays.symm))
    · exact ne_dottedCapital_of_mem member (stays ▸ gives)
  · rw [stays]
    exact lowerCode_lowerCode c.toNat

/-- What a character becomes is in lower case. -/
private theorem isLower_of_mem_lowerChar {before after : List Char} {c lowered : Char}
    (member : lowered ∈ lowerChar before c after) :
    IsLower lowered := by
  unfold lowerChar at member
  split at member
  · rw [List.mem_singleton.mp member]
    exact isLower_lowerSigma before after
  · split at member
    · rcases List.mem_cons.mp member with rfl | inRest
      · exact ⟨by decide, by decide, by decide +kernel⟩
      · rw [List.mem_singleton.mp inRest]
        exact ⟨by decide, by decide, by decide +kernel⟩
    · rename_i noDotted
      rw [List.mem_singleton.mp member]
      exact isLower_ofNat_lowerCode noDotted

private theorem isLower_of_mem_lowercaseFrom {before text : List Char} {lowered : Char}
    (member : lowered ∈ lowercaseFrom before text) :
    IsLower lowered := by
  induction text generalizing before with
  | nil => cases member
  | cons c after inductionHypothesis =>
      rcases List.mem_append.mp member with here | later
      · exact isLower_of_mem_lowerChar here
      · exact inductionHypothesis later

private theorem lowercaseFrom_of_isLower {text : List Char} (before : List Char)
    (isLower : ∀ c ∈ text, IsLower c) :
    lowercaseFrom before text = text := by
  induction text generalizing before with
  | nil => rfl
  | cons c after inductionHypothesis =>
      obtain ⟨first, rest⟩ := List.forall_mem_cons.mp isLower
      rw [lowercaseFrom, first.lowerChar_eq, inductionHypothesis (c :: before) rest]
      rfl

/-- The lower case form of a text is in lower case. -/
theorem lowercase_lowercase (text : String) : lowercase (lowercase text) = lowercase text := by
  have stays : lowercaseFrom [] (lowercase text).toList = (lowercase text).toList :=
    lowercaseFrom_of_isLower [] fun c member => by
      rw [lowercase, String.toList_ofList] at member
      exact isLower_of_mem_lowercaseFrom member
  rw [lowercase, stays, String.ofList_toList]

/-- A sigma that stands alone ends no word, and that at the end of a word is no capital again. -/
example : lowercase "ΣΑΣ" = "σας" ∧ lowercase "σας" = "σας" ∧ lowercase "Σ" = "σ" := by
  decide +kernel

end Switchboard.Text
