import Switchboard.Exposure.Queue

namespace Switchboard

/-!
# Ledgers of accepted records

What became of each record that a queue accepted, in the order in which they were accepted.
Records leave a queue from its front, so whatever happens to some of them happens to the
first ones that wait.
-/

/-- What became of an accepted record. -/
inductive Fate where
  | waiting
  /-- Taken out of the queue, to be sent with its chunk. -/
  | inFlight
  | handed
  | dropped
  deriving DecidableEq, Repr

/-- An accepted record and what became of it. -/
structure LedgerEntry where
  record : Exposure
  fate : Fate
  deriving DecidableEq, Repr

namespace Ledger

/-- The records with a fate. -/
def having (fate : Fate) (ledger : List LedgerEntry) : List Exposure :=
  (ledger.filter fun entry => entry.fate = fate).map LedgerEntry.record

/-- The first entries with one fate get another. -/
def turn (before after : Fate) : Nat → List LedgerEntry → List LedgerEntry
  | 0, ledger => ledger
  | _, [] => []
  | count + 1, entry :: rest =>
      if entry.fate = before then
        { entry with fate := after } :: turn before after count rest
      else
        entry :: turn before after (count + 1) rest

/-- A batch enters a queue, which gives up its oldest records for it where it is full. -/
def enter (queue : ExposureQueue) (ledger : List LedgerEntry) :
    List Exposure → List LedgerEntry
  | [] => ledger
  | record :: rest =>
      enter (queue.push record).2
        (turn .waiting .dropped (queue.push record).1 ledger ++ [⟨record, .waiting⟩]) rest

variable {before after fate : Fate} {count : Nat} {ledger : List LedgerEntry}

theorem having_cons (fate : Fate) (entry : LedgerEntry) (rest : List LedgerEntry) :
    having fate (entry :: rest) =
      if entry.fate = fate then entry.record :: having fate rest else having fate rest := by
  unfold having
  by_cases same : entry.fate = fate
  · simp [same]
  · simp [same]

@[simp] theorem having_append (fate : Fate) (first second : List LedgerEntry) :
    having fate (first ++ second) = having fate first ++ having fate second := by
  simp [having]

/-- Nobody has a fate that no record is listed with. -/
theorem fate_ne_of_having (none : having fate ledger = []) {entry : LedgerEntry}
    (member : entry ∈ ledger) : entry.fate ≠ fate := by
  intro same
  have listed : entry.record ∈ having fate ledger :=
    List.mem_map.mpr ⟨entry, List.mem_filter.mpr ⟨member, decide_eq_true same⟩, rfl⟩
  rw [none] at listed
  cases listed

/-! ## Turning fates -/

@[simp] theorem length_turn (before after : Fate) (count : Nat) (ledger : List LedgerEntry) :
    (turn before after count ledger).length = ledger.length := by
  fun_induction turn before after count ledger with
  | case1 ledger => rfl
  | case2 count => rfl
  | case3 count entry rest same inductionHypothesis => simp [inductionHypothesis]
  | case4 count entry rest other inductionHypothesis => simp [inductionHypothesis]

/-- The first entries have the fate no more. -/
theorem having_turn_before (different : before ≠ after) :
    having before (turn before after count ledger) = (having before ledger).drop count := by
  fun_induction turn before after count ledger with
  | case1 ledger => rfl
  | case2 count => simp [having]
  | case3 count entry rest same inductionHypothesis =>
      simp [having_cons, same, different.symm, inductionHypothesis]
  | case4 count entry rest other inductionHypothesis =>
      simp [having_cons, other, inductionHypothesis]

/-- They have the other fate, if nobody had it before. -/
theorem having_turn_of_none (different : before ≠ after) (none : having after ledger = []) :
    having after (turn before after count ledger) = (having before ledger).take count := by
  fun_induction turn before after count ledger with
  | case1 ledger => simp [none]
  | case2 count => simp [having]
  | case3 count entry rest same inductionHypothesis =>
      rw [having_cons, same, if_neg different] at none
      simp [having_cons, same, inductionHypothesis none]
  | case4 count entry rest other inductionHypothesis =>
      have free : entry.fate ≠ after := fate_ne_of_having none List.mem_cons_self
      rw [having_cons, if_neg free] at none
      simp [having_cons, other, free, inductionHypothesis none]

/-- They have the other fate, with those who had it before. -/
theorem having_turn_after (different : before ≠ after) :
    (having after (turn before after count ledger)).Perm
      (having after ledger ++ (having before ledger).take count) := by
  fun_induction turn before after count ledger with
  | case1 ledger => simp
  | case2 count => simp [having]
  | case3 count entry rest same inductionHypothesis =>
      simp only [having_cons, same, different, if_true, if_false, List.take_succ_cons]
      exact (inductionHypothesis.cons entry.record).trans List.perm_middle.symm
  | case4 count entry rest other inductionHypothesis =>
      by_cases already : entry.fate = after
      · simp only [having_cons, already, different.symm, if_true, if_false, List.cons_append]
        exact inductionHypothesis.cons entry.record
      · simp only [having_cons, other, already, if_false]
        exact inductionHypothesis

/-- Others keep their fates. -/
theorem having_turn_other (notBefore : fate ≠ before) (notAfter : fate ≠ after) :
    having fate (turn before after count ledger) = having fate ledger := by
  fun_induction turn before after count ledger with
  | case1 ledger => rfl
  | case2 count => rfl
  | case3 count entry rest same inductionHypothesis =>
      simp [having_cons, same, notBefore.symm, notAfter.symm, inductionHypothesis]
  | case4 count entry rest other inductionHypothesis =>
      simp [having_cons, inductionHypothesis]

/-- An entry turns at most from the one fate to the other. -/
theorem fate_turn {place : Nat} {entry : LedgerEntry}
    (stands : (turn before after count ledger)[place]? = some entry) :
    ∃ old, ledger[place]? = some old ∧
      (entry.fate = old.fate ∨ old.fate = before ∧ entry.fate = after) := by
  fun_induction turn before after count ledger generalizing place with
  | case1 ledger => exact ⟨entry, stands, .inl rfl⟩
  | case2 count => cases stands
  | case3 count head rest same inductionHypothesis =>
      cases place with
      | zero =>
          cases stands
          exact ⟨head, rfl, .inr ⟨same, rfl⟩⟩
      | succ place => exact inductionHypothesis stands
  | case4 count head rest other inductionHypothesis =>
      cases place with
      | zero =>
          cases stands
          exact ⟨entry, rfl, .inl rfl⟩
      | succ place => exact inductionHypothesis stands

/-! ## Entering batches -/

/-- An entry is as before, or was given up meanwhile, or is new and waits or was given up. -/
def IsCarried (ledger : List LedgerEntry) (place : Nat) (entry : LedgerEntry) : Prop :=
  (∃ old, ledger[place]? = some old ∧
      (entry.fate = old.fate ∨ old.fate = .waiting ∧ entry.fate = .dropped)) ∨
    ledger.length ≤ place ∧ (entry.fate = .waiting ∨ entry.fate = .dropped)

/-- The ledger after records entered a queue and pushed others out of it. -/
structure Enters (queue : ExposureQueue) (pushedOut : Nat) (ledger after : List LedgerEntry) :
    Prop where
  waiting : having .waiting after = queue.records
  inFlight : having .inFlight after = having .inFlight ledger
  handed : having .handed after = having .handed ledger
  dropped : (having .dropped after).length = (having .dropped ledger).length + pushedOut
  length : ledger.length ≤ after.length
  entries : ∀ place entry, after[place]? = some entry → IsCarried ledger place entry

theorem Enters.trans {queue later : ExposureQueue} {first second : Nat}
    {middle after : List LedgerEntry}
    (earlier : Enters queue first ledger middle)
    (next : Enters later second middle after) :
    Enters later (first + second) ledger after where
  waiting := next.waiting
  inFlight := next.inFlight.trans earlier.inFlight
  handed := next.handed.trans earlier.handed
  dropped := by rw [next.dropped, earlier.dropped, Nat.add_assoc]
  length := Nat.le_trans earlier.length next.length
  entries place entry stands := by
    rcases next.entries place entry stands with ⟨old, oldStands, change⟩ | ⟨isNew, fates⟩
    · rcases earlier.entries place old oldStands with
        ⟨origin, originStands, originChange⟩ | ⟨isNew, fates⟩
      · refine .inl ⟨origin, originStands, ?_⟩
        rcases change with same | ⟨waited, dropped⟩
        · rw [same]
          exact originChange
        · rcases originChange with same | ⟨_, already⟩
          · exact .inr ⟨same.symm.trans waited, dropped⟩
          · cases already.symm.trans waited
      · refine .inr ⟨isNew, ?_⟩
        rcases change with same | ⟨_, dropped⟩
        · rw [same]
          exact fates
        · exact .inr dropped
    · exact .inr ⟨Nat.le_trans earlier.length isNew, fates⟩

/-- A record joins the queue at its end, and what it pushes out leaves at the front. -/
theorem push_records (queue : ExposureQueue) (record : Exposure) :
    (queue.push record).2.records = queue.records.drop (queue.push record).1 ++ [record] ∧
      (queue.push record).1 ≤ queue.records.length := by
  unfold ExposureQueue.push
  split
  · rename_i full
    exact ⟨rfl, Nat.le_trans (Nat.le_max_left 1 queue.settings.maxQueueSize) full⟩
  · exact ⟨rfl, Nat.zero_le _⟩

private theorem enters_push {queue : ExposureQueue} (waits : having .waiting ledger = queue.records)
    (record : Exposure) :
    Enters (queue.push record).2 (queue.push record).1 ledger
      (turn .waiting .dropped (queue.push record).1 ledger ++ [⟨record, .waiting⟩]) := by
  obtain ⟨records, bound⟩ := push_records queue record
  refine {
    waiting := ?_
    inFlight := ?_
    handed := ?_
    dropped := ?_
    length := ?_
    entries := ?_ }
  · rw [having_append, having_turn_before (by decide), waits, records]
    rfl
  · rw [having_append, having_turn_other (by decide) (by decide)]
    exact List.append_nil _
  · rw [having_append, having_turn_other (by decide) (by decide)]
    exact List.append_nil _
  · have pushedOut :
        (having .dropped (turn .waiting .dropped (queue.push record).1 ledger)).Perm _ :=
      having_turn_after (by decide)
    rw [having_append, List.length_append, pushedOut.length_eq, List.length_append, waits,
      List.length_take, Nat.min_eq_left bound]
    rfl
  · simp
  · intro place entry stands
    rw [List.getElem?_append] at stands
    split at stands
    · obtain ⟨old, oldStands, change⟩ := fate_turn stands
      exact .inl ⟨old, oldStands, change⟩
    · rename_i beyond
      rw [length_turn] at beyond
      obtain ⟨_, isNew⟩ := List.getElem?_eq_some_iff.mp stands
      rw [List.getElem_singleton] at isNew
      exact .inr ⟨Nat.le_of_not_lt beyond, .inl (congrArg LedgerEntry.fate isNew.symm)⟩

/-- A batch enters the ledger as it enters the queue. -/
theorem enters_enter {queue : ExposureQueue} (waits : having .waiting ledger = queue.records)
    (batch : List Exposure) :
    Enters (queue.pushAll batch).2 (queue.pushAll batch).1 ledger (enter queue ledger batch) := by
  induction batch generalizing queue ledger with
  | nil =>
      exact {
        waiting := waits
        inFlight := rfl
        handed := rfl
        dropped := rfl
        length := Nat.le_refl _
        entries := fun place entry stands => .inl ⟨entry, stands, .inl rfl⟩ }
  | cons record rest inductionHypothesis =>
      have first := enters_push waits record
      exact first.trans (inductionHypothesis first.waiting)

end Ledger

end Switchboard
