namespace Switchboard

/-!
# Places in lists that grow

Logs, runs and the instances of a deployment grow at their end, which leaves what stood
in them where it was.
-/

variable {α : Type} {items later : List α} {item last : α} {place : Nat}

/-- What stands in a list with one more item stood there, or is that item at the end. -/
theorem getElem_snoc (found : (items ++ [last])[place]? = some item) :
    place < items.length ∧ items[place]? = some item ∨ place = items.length ∧ item = last := by
  by_cases inRange : place < items.length
  · rw [List.getElem?_append_left inRange] at found
    exact .inl ⟨inRange, found⟩
  · rw [List.getElem?_append_right (Nat.le_of_not_lt inRange)] at found
    obtain ⟨isFirst, same⟩ := List.getElem?_eq_some_iff.mp found
    have isLast : place = items.length := by
      simp only [List.length_singleton] at isFirst
      omega
    subst isLast
    exact .inr ⟨rfl, by simpa using same.symm⟩

/-- An item that shows nothing changes nothing about what a list shows. -/
theorem bind_getElem_snoc {β : Type} {shown : α → Option β}
    (nothing : shown last = none)
    (place : Nat) :
    (items ++ [last])[place]?.bind shown = items[place]?.bind shown := by
  cases found : (items ++ [last])[place]? with
  | none =>
      have outside := List.getElem?_eq_none_iff.mp found
      rw [List.length_append] at outside
      rw [List.getElem?_eq_none (Nat.le_trans (Nat.le_add_right _ _) outside)]
  | some item =>
      rcases getElem_snoc found with ⟨_, earlier⟩ | ⟨rfl, rfl⟩
      · rw [earlier]
      · rw [List.getElem?_eq_none (Nat.le_refl _)]
        exact nothing

/-- What a list has it also has before what follows. -/
theorem getElem_of_earlier (later : List α) (member : item ∈ items) :
    ∃ place, place < items.length ∧ (items ++ later)[place]? = some item := by
  obtain ⟨place, found⟩ := List.mem_iff_getElem?.mp member
  have inRange := (List.getElem?_eq_some_iff.mp found).1
  exact ⟨place, inRange, (List.getElem?_append_left inRange).trans found⟩

/-- What follows a list stands behind it. -/
theorem getElem_of_later (items : List α) (member : item ∈ later) :
    ∃ place, items.length ≤ place ∧ (items ++ later)[place]? = some item := by
  obtain ⟨place, found⟩ := List.mem_iff_getElem?.mp member
  refine ⟨items.length + place, Nat.le_add_right _ _, ?_⟩
  rw [List.getElem?_append_right (Nat.le_add_right _ _), Nat.add_sub_cancel_left]
  exact found

end Switchboard
