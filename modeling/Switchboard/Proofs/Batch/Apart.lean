import Switchboard.Proofs.Batch.Schedules

namespace Switchboard

/-!
# Programs that do not notice one another

Where what one program asks for is nothing that the others can see, each of them ends side by
side as it does alone.  Two states are alike for a program when it cannot tell them apart: in
one of them all programs run, in the other only this one.
-/

variable {State : Type}

/-- Each program has terms of its own, and no request within the terms of another shows to it. -/
structure KeepsApart
    (handler : (request : Request) → State → request.Reply × State)
    (terms : String → Terms)
    (names : List String)
    (alike : String → State → State → Prop) : Prop where
  own : ∀ {name request joint alone}, name ∈ names → (terms name).asks request →
    alike name joint alone →
      (handler request joint).1 = (handler request alone).1 ∧
        (terms name).gives request (handler request joint).1 ∧
          alike name (handler request joint).2 (handler request alone).2
  other : ∀ {name another request joint alone}, name ∈ names → another ∈ names →
    another ≠ name → (terms another).asks request → alike name joint alone →
      alike name (handler request joint).2 alone

/-- A program within its terms that would end so if it went on alone. -/
structure Awaits
    (handler : (request : Request) → State → request.Reply × State)
    (terms : Terms)
    (alike : State → State → Prop)
    (outcome : α)
    (state : State)
    (program : Program α) : Prop where
  abides : program.Abides terms fun _ => True
  alone : ∃ alone, alike state alone ∧ (program.run handler alone).1 = outcome

namespace KeepsApart

variable {handler : (request : Request) → State → request.Reply × State}
variable {terms : String → Terms} {names : List String} {alike : String → State → State → Prop}
variable {name another : String} {joint alone : State} {program : Program α}
variable (apart : KeepsApart handler terms names alike)
include apart

/-- States that are alike for a program are so after it ran in both, and it ends alike. -/
theorem run_own (member : name ∈ names)
    (abides : program.Abides (terms name) fun _ => True)
    (same : alike name joint alone) :
    (program.run handler joint).1 = (program.run handler alone).1 ∧
      alike name (program.run handler joint).2 (program.run handler alone).2 := by
  induction program generalizing joint alone with
  | done value => exact ⟨rfl, same⟩
  | step request resume inductionHypothesis =>
      obtain ⟨reply, given, still⟩ := apart.own member abides.1 same
      have later := inductionHypothesis _ (abides.2 _ given) still
      rw [reply] at later
      simpa only [Program.run, reply] using later

/-- States that are alike for a program are so after another ran in one of them. -/
theorem run_other {beside : State} (member : name ∈ names) (isAnother : another ∈ names)
    (different : another ≠ name)
    (abides : program.Abides (terms another) fun _ => True)
    (seen : alike another joint beside)
    (same : alike name joint alone) :
    alike name (program.run handler joint).2 alone := by
  induction program generalizing joint beside with
  | done value => exact same
  | step request resume inductionHypothesis =>
      obtain ⟨_, given, still⟩ := apart.own isAnother abides.1 seen
      exact inductionHypothesis _ (abides.2 _ given) still
        (apart.other member isAnother different abides.1 same)

section Awaiting

variable {programs : String → Program α} {outcomes : String → α} {state : State}

/-- While programs go on side by side, each still awaits what it awaited. -/
theorem awaits_sideBySide
    (awaits : ∀ name ∈ names,
      Awaits handler (terms name) (alike name) (outcomes name) state (programs name))
    (schedule : List String)
    (scheduled : ∀ name ∈ schedule, name ∈ names) :
    ∀ name ∈ names, Awaits handler (terms name) (alike name) (outcomes name)
      ((Program.sideBySide programs schedule).run handler state).2
      (((Program.sideBySide programs schedule).run handler state).1 name) := by
  induction schedule generalizing programs state with
  | nil => exact awaits
  | cons next rest inductionHypothesis =>
      rw [List.forall_mem_cons] at scheduled
      unfold Program.sideBySide
      cases waiting : programs next with
      | done value => exact inductionHypothesis awaits scheduled.2
      | step request resume =>
          have asking := awaits next scheduled.1
          rw [waiting] at asking
          obtain ⟨beside, seen, ended⟩ := asking.alone
          obtain ⟨reply, given, still⟩ := apart.own scheduled.1 asking.abides.1 seen
          refine inductionHypothesis (fun name member => ?_) scheduled.2
          by_cases here : name = next
          · subst here
            rw [Function.update_self]
            exact ⟨asking.abides.2 _ given, _, still, reply ▸ ended⟩
          · rw [Function.update_of_ne here]
            obtain ⟨alone, same, endsAlone⟩ := (awaits name member).alone
            exact ⟨(awaits name member).abides, alone,
              apart.other member scheduled.1 (Ne.symm here) asking.abides.1 same, endsAlone⟩

end Awaiting

section Joining

variable {programs : String → Program (Except ServiceError α)}
variable {outcomes : String → Except ServiceError α} {state : State}

/-- Programs that are run one after the other end as each awaits it. -/
private theorem joins_finish {rest : List String}
    (within : ∀ name ∈ rest, name ∈ names)
    (distinct : rest.Nodup)
    (awaits : ∀ name ∈ rest,
      Awaits handler (terms name) (alike name) (outcomes name) state (programs name)) :
    Joins (fun name outcome => outcomes name = outcome) rest
      ((finish programs rest).perform handler state).1 := by
  induction rest generalizing state with
  | nil => exact ⟨rfl, by simp⟩
  | cons first later inductionHypothesis =>
      rw [List.forall_mem_cons] at within awaits
      obtain ⟨notLater, distinctLater⟩ := List.nodup_cons.mp distinct
      obtain ⟨beside, seen, ended⟩ := awaits.1.alone
      have ran := (apart.run_own within.1 awaits.1.abides seen).1.trans ended
      have performed : Operation.perform handler (ExceptT.mk (programs first) : Operation α) state =
          (programs first).run handler state := rfl
      have stillAwaits : ∀ name ∈ later, Awaits handler (terms name) (alike name) (outcomes name)
          ((programs first).run handler state).2 (programs name) := by
        intro name member
        have different : first ≠ name := fun same => notLater (same ▸ member)
        obtain ⟨alone, same, endsAlone⟩ := (awaits.2 name member).alone
        exact ⟨(awaits.2 name member).abides, alone, apart.run_other (within.2 name member)
          within.1 different awaits.1.abides seen same, endsAlone⟩
      have goesOn := inductionHypothesis within.2 distinctLater stillAwaits
      simp only [finish]
      rw [Operation.perform_bind, performed]
      generalize (programs first).run handler state = run at ran goesOn ⊢
      obtain ⟨outcome, middle⟩ := run
      obtain rfl : outcome = outcomes first := ran
      cases answered : outcomes first with
      | error error => exact ⟨first, List.mem_cons_self, answered⟩
      | ok value =>
          simp only at goesOn ⊢
          rw [Operation.perform_bind]
          generalize Operation.perform handler (finish programs later) middle = last at goesOn ⊢
          obtain ⟨outcome, _⟩ := last
          cases outcome with
          | error error =>
              obtain ⟨name, member, failed⟩ := goesOn
              exact ⟨name, List.mem_cons_of_mem first member, failed⟩
          | ok answers =>
              exact ⟨congrArg (first :: ·) goesOn.1,
                List.forall_mem_cons.mpr ⟨answered, goesOn.2⟩⟩

/-- Programs that do not notice one another are joined as each ends alone. -/
theorem joins_joinAlong (distinct : names.Nodup)
    (awaits : ∀ name ∈ names,
      Awaits handler (terms name) (alike name) (outcomes name) state (programs name))
    (schedule : List String) :
    Joins (fun name outcome => outcomes name = outcome) names
      ((joinAlong schedule programs names).perform handler state).1 := by
  have scheduled : ∀ name ∈ schedule.filter (names.contains ·), name ∈ names := by
    simp
  have await := apart.awaits_sideBySide awaits _ scheduled
  simp only [joinAlong]
  rw [Operation.perform_bind, Operation.perform_lift]
  generalize Program.run handler (Program.sideBySide programs
    (schedule.filter (names.contains ·))) state = ran at await ⊢
  obtain ⟨left, later⟩ := ran
  simp only at await ⊢
  cases failed : firstFailure left names with
  | none => exact apart.joins_finish (fun _ member => member) distinct await
  | some error =>
      obtain ⟨name, member, isOver⟩ := done_of_firstFailure failed
      obtain ⟨alone, _, ended⟩ := (await name member).alone
      rw [isOver] at ended
      exact ⟨name, member, ended.symm⟩

end Joining

end KeepsApart

end Switchboard
