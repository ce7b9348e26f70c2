import Mathlib.Logic.Function.Basic
import Switchboard.Evaluator
import Switchboard.Proofs.Layer.Terms

namespace Switchboard

/-!
# Batches in any order

The keys of a batch are resolved side by side.  A schedule says which of them goes on, by one
request after the other; the first failure that is noticed ends the batch, whatever the others
have left to do.  What holds of every schedule holds of the order in which a batch is answered
here, which is the schedule that leaves everything to the end.
-/

namespace Program

/-- Let programs go on in the order of a schedule: what is left of each. -/
def sideBySide (programs : String → Program α) : List String → Program (String → Program α)
  | [] => .done programs
  | name :: rest =>
      match programs name with
      | .done _ => sideBySide programs rest
      | .step request resume =>
          .step request fun reply =>
            sideBySide (Function.update programs name (resume reply)) rest

/-- What some exchanges leave of a program. -/
inductive Leads : Program α → List Exchange → Program α → Prop where
  | here (program : Program α) : Leads program [] program
  | further {request : Request} {resume : request.Reply → Program α} {exchanges : List Exchange}
      {last : Program α} (reply : request.Reply) :
      Leads (resume reply) exchanges last →
        Leads (.step request resume) (⟨request, reply⟩ :: exchanges) last

theorem Leads.trans {first middle last : Program α} {earlier later : List Exchange}
    (before : Leads first earlier middle)
    (after : Leads middle later last) :
    Leads first (earlier ++ later) last := by
  induction before with
  | here program => exact after
  | further reply _ inductionHypothesis => exact .further reply (inductionHypothesis after)

/-- What is left of a program abides by the terms that its exchanges kept. -/
theorem Leads.abides {terms : Terms} {ends : α → Prop} {program left : Program α}
    {made : List Exchange}
    (leads : Leads program made left)
    (abides : program.Abides terms ends)
    (given : ∀ exchange ∈ made, terms.gives exchange.request exchange.reply) :
    left.Abides terms ends := by
  induction leads with
  | here program => exact abides
  | further reply _ inductionHypothesis =>
      rw [List.forall_mem_cons] at given
      exact inductionHypothesis (abides.2 reply given.1) given.2

variable {State : Type} {handler : (request : Request) → State → request.Reply × State}

/-- The exchanges of a program that is run to its end lead there. -/
theorem leads_run (program : Program α) (state : State) :
    Leads program (program.exchanges handler state) (.done (program.run handler state).1) := by
  induction program generalizing state with
  | done value => exact .here _
  | step request resume inductionHypothesis =>
      exact .further _ (inductionHypothesis _ _)

/-- Of the exchanges of programs that run side by side, each made its own in their order. -/
theorem leads_sideBySide
    (handler : (request : Request) → State → request.Reply × State)
    (programs : String → Program α)
    (schedule : List String)
    (state : State)
    (name : String) :
    let together := sideBySide programs schedule
    ∃ own, own.Sublist (together.exchanges handler state) ∧
      Leads (programs name) own ((together.run handler state).1 name) := by
  induction schedule generalizing programs state with
  | nil => exact ⟨[], .slnil, .here _⟩
  | cons next rest inductionHypothesis =>
      simp only [sideBySide]
      cases waiting : programs next with
      | done value => exact inductionHypothesis programs state
      | step request resume =>
          obtain ⟨own, among, leads⟩ := inductionHypothesis
            (Function.update programs next (resume (handler request state).1))
            (handler request state).2
          by_cases here : name = next
          · subst here
            rw [Function.update_self] at leads
            rw [waiting]
            exact ⟨_, among.cons_cons _, .further _ leads⟩
          · rw [Function.update_of_ne here] at leads
            exact ⟨own, among.cons _, leads⟩

/-- Programs that abide by terms abide by them side by side. -/
theorem abides_sideBySide {terms : Terms} {ends : String → α → Prop} {names : List String}
    {programs : String → Program α}
    (abide : ∀ name ∈ names, (programs name).Abides terms (ends name))
    (schedule : List String)
    (scheduled : ∀ name ∈ schedule, name ∈ names) :
    (sideBySide programs schedule).Abides terms fun left =>
      ∀ name ∈ names, (left name).Abides terms (ends name) := by
  induction schedule generalizing programs with
  | nil => exact abide
  | cons next rest inductionHypothesis =>
      rw [List.forall_mem_cons] at scheduled
      unfold sideBySide
      cases waiting : programs next with
      | done value => exact inductionHypothesis abide scheduled.2
      | step request resume =>
          have abides := abide next scheduled.1
          rw [waiting] at abides
          refine ⟨abides.1, fun reply given =>
            inductionHypothesis (fun name member => ?_) scheduled.2⟩
          by_cases here : name = next
          · subst here
            rw [Function.update_self]
            exact abides.2 reply given
          · rw [Function.update_of_ne here]
            exact abide name member

end Program

/-- The failure that is noticed first among programs of which some are over. -/
def firstFailure (programs : String → Program (Except ServiceError α)) :
    List String → Option ServiceError
  | [] => none
  | name :: rest =>
      match programs name with
      | .done (.error error) => some error
      | _ => firstFailure programs rest

/-- Run what is left of programs, one after the other. -/
def finish (programs : String → Program (Except ServiceError α)) :
    List String → Operation (List (String × α))
  | [] => return []
  | name :: rest => do
      let value ← ExceptT.mk (programs name)
      let later ← finish programs rest
      return (name, value) :: later

/-- Run programs side by side until one of them fails or all are over. -/
def joinAlong
    (schedule : List String)
    (programs : String → Program (Except ServiceError α))
    (names : List String) :
    Operation (List (String × α)) := do
  let left ← ExceptT.lift (Program.sideBySide programs (schedule.filter (names.contains ·)))
  match firstFailure left names with
  | some error => throw error
  | none => finish left names

/-- The outcome of programs that are joined: all their values, or the failure of one. -/
def Joins (ends : String → Except ServiceError α → Prop) (names : List String) :
    Except ServiceError (List (String × α)) → Prop
  | .ok answers =>
      answers.map Prod.fst = names ∧ ∀ answer ∈ answers, ends answer.1 (.ok answer.2)
  | .error error => ∃ name ∈ names, ends name (.error error)

theorem Joins.mono {ends wider : String → Except ServiceError α → Prop} {names : List String}
    {outcome : Except ServiceError (List (String × α))}
    (joins : Joins ends names outcome)
    (implies : ∀ name ∈ names, ∀ outcome, ends name outcome → wider name outcome) :
    Joins wider names outcome := by
  cases outcome with
  | ok answers =>
      refine ⟨joins.1, fun answer member => implies _ ?_ _ (joins.2 answer member)⟩
      rw [← joins.1]
      exact List.mem_map_of_mem member
  | error error =>
      obtain ⟨name, member, failed⟩ := joins
      exact ⟨name, member, implies name member _ failed⟩

section Joining

variable {programs : String → Program (Except ServiceError α)} {names : List String}

/-- A failure that is noticed is the end of one of the programs. -/
theorem done_of_firstFailure {error : ServiceError}
    (failed : firstFailure programs names = some error) :
    ∃ name ∈ names, programs name = .done (.error error) := by
  induction names with
  | nil => cases failed
  | cons first rest inductionHypothesis =>
      unfold firstFailure at failed
      split at failed
      · rename_i isOver
        cases failed
        exact ⟨first, List.mem_cons_self, isOver⟩
      · obtain ⟨name, member, isOver⟩ := inductionHypothesis failed
        exact ⟨name, List.mem_cons_of_mem first member, isOver⟩

/-- Where nothing is over yet, nothing failed. -/
theorem firstFailure_eq_none
    (waiting : ∀ name ∈ names, ∀ outcome, programs name ≠ .done outcome) :
    firstFailure programs names = none := by
  cases failed : firstFailure programs names with
  | none => rfl
  | some error =>
      obtain ⟨name, member, isOver⟩ := done_of_firstFailure failed
      exact absurd isOver (waiting name member _)

theorem joinAlong_nil
    (waiting : ∀ name ∈ names, ∀ outcome, programs name ≠ .done outcome) :
    joinAlong [] programs names = finish programs names := by
  have noFailure := firstFailure_eq_none waiting
  change (match firstFailure programs names with
    | some error => throw error
    | none => finish programs names) = _
  rw [noFailure]

section Abiding

variable {terms : Terms} {ends : String → Except ServiceError α → Prop}

private theorem abides_finish
    (abide : ∀ name ∈ names, (programs name).Abides terms (ends name)) :
    (finish programs names).Abides terms (Joins ends names) := by
  induction names with
  | nil => exact Operation.abides_pure ⟨rfl, by simp⟩
  | cons first rest inductionHypothesis =>
      rw [List.forall_mem_cons] at abide
      refine Operation.abides_bind (abide.1.mono fun outcome ended => ?_)
      cases outcome with
      | error error => exact ⟨first, List.mem_cons_self, ended⟩
      | ok value =>
          refine Operation.abides_bind ((inductionHypothesis abide.2).mono fun later joins => ?_)
          cases later with
          | error error =>
              obtain ⟨name, member, failed⟩ := joins
              exact ⟨name, List.mem_cons_of_mem first member, failed⟩
          | ok answers =>
              exact Operation.abides_pure ⟨congrArg (first :: ·) joins.1,
                List.forall_mem_cons.mpr ⟨ended, joins.2⟩⟩

/-- Programs that abide by terms are joined by them. -/
theorem abides_joinAlong (schedule : List String)
    (abide : ∀ name ∈ names, (programs name).Abides terms (ends name)) :
    (joinAlong schedule programs names).Abides terms (Joins ends names) := by
  have scheduled : ∀ name ∈ schedule.filter (names.contains ·), name ∈ names := by
    simp
  refine Operation.abides_bind (Operation.abides_lift
    ((Program.abides_sideBySide abide _ scheduled).mono fun left abide => ?_))
  dsimp only
  cases failed : firstFailure left names with
  | none => exact abides_finish abide
  | some error =>
      obtain ⟨name, member, isOver⟩ := done_of_firstFailure failed
      have ended := abide name member
      rw [isOver] at ended
      exact Operation.abides_throw ⟨name, member, ended⟩

end Abiding

/-! ## The exchanges of a join -/

/-- A program made some of the exchanges, in their order, and ended so. -/
def RunsAmong (exchanges : List Exchange) (program : Program α) (outcome : α) : Prop :=
  ∃ own, own.Sublist exchanges ∧ Program.Leads program own (.done outcome)

theorem RunsAmong.behind {exchanges : List Exchange} {program : Program α} {outcome : α}
    (runs : RunsAmong exchanges program outcome) (earlier : List Exchange) :
    RunsAmong (earlier ++ exchanges) program outcome := by
  obtain ⟨own, among, leads⟩ := runs
  exact ⟨own, among.trans (List.sublist_append_right earlier exchanges), leads⟩

theorem RunsAmong.ahead {exchanges : List Exchange} {program : Program α} {outcome : α}
    (runs : RunsAmong exchanges program outcome) (later : List Exchange) :
    RunsAmong (exchanges ++ later) program outcome := by
  obtain ⟨own, among, leads⟩ := runs
  exact ⟨own, among.trans (List.sublist_append_left exchanges later), leads⟩

private theorem RunsAmong.further {exchanges later : List Exchange} {program left : Program α}
    {outcome : α}
    (leads : ∃ own, own.Sublist exchanges ∧ Program.Leads program own left)
    (runs : RunsAmong later left outcome) :
    RunsAmong (exchanges ++ later) program outcome := by
  obtain ⟨own, among, leads⟩ := leads
  obtain ⟨ownLater, amongLater, leadsOn⟩ := runs
  exact ⟨own ++ ownLater, among.append amongLater, leads.trans leadsOn⟩

variable {State : Type} {handler : (request : Request) → State → request.Reply × State}

private theorem runsAmong_finish (programs : String → Program (Except ServiceError α))
    (names : List String) (state : State) :
    let finished := finish programs names
    Joins (fun name => RunsAmong (finished.run.exchanges handler state) (programs name)) names
      (finished.perform handler state).1 := by
  induction names generalizing state with
  | nil => exact ⟨rfl, by simp⟩
  | cons first rest inductionHypothesis =>
      have runs : RunsAmong ((programs first).exchanges handler state) (programs first)
          ((programs first).run handler state).1 :=
        ⟨_, .refl _, Program.leads_run (programs first) state⟩
      have ended : Operation.perform handler (ExceptT.mk (programs first) : Operation α) state =
          (programs first).run handler state := rfl
      simp only [finish]
      rw [Operation.exchanges_bind, Operation.perform_bind, ended]
      generalize (programs first).run handler state = ran at runs ⊢
      obtain ⟨outcome, middle⟩ := ran
      cases outcome with
      | error error => exact ⟨first, List.mem_cons_self, runs.ahead []⟩
      | ok value =>
          have joins := inductionHypothesis middle
          simp only at joins ⊢
          rw [Operation.exchanges_bind, Operation.perform_bind]
          generalize Operation.perform handler (finish programs rest) middle = last at joins ⊢
          obtain ⟨outcome, later⟩ := last
          have behind {name : String} {outcome : Except ServiceError α}
              (others : RunsAmong ((finish programs rest).run.exchanges handler middle)
                (programs name) outcome) :=
            (others.ahead []).behind ((programs first).exchanges handler state)
          cases outcome with
          | error error =>
              obtain ⟨name, member, failed⟩ := joins
              exact ⟨name, List.mem_cons_of_mem first member, behind failed⟩
          | ok answers =>
              exact ⟨congrArg (first :: ·) joins.1, List.forall_mem_cons.mpr
                ⟨runs.ahead _, fun answer member => behind (joins.2 answer member)⟩⟩

/-- However programs are joined, each that matters ran among the exchanges as if by itself. -/
theorem runsAmong_joinAlong (schedule : List String)
    (programs : String → Program (Except ServiceError α)) (names : List String) (state : State) :
    let joined := joinAlong schedule programs names
    Joins (fun name => RunsAmong (joined.run.exchanges handler state) (programs name)) names
      (joined.perform handler state).1 := by
  have leads := Program.leads_sideBySide handler programs (schedule.filter (names.contains ·)) state
  dsimp only at leads
  simp only [joinAlong]
  rw [Operation.exchanges_bind, Operation.perform_bind, Operation.perform_lift,
    Operation.exchanges_lift]
  generalize Program.run handler (Program.sideBySide programs
    (schedule.filter (names.contains ·))) state = ran at leads ⊢
  obtain ⟨left, later⟩ := ran
  simp only
  cases failed : firstFailure left names with
  | some error =>
      obtain ⟨name, member, isOver⟩ := done_of_firstFailure failed
      exact ⟨name, member, .further (leads name) ⟨[], .slnil, isOver ▸ .here _⟩⟩
  | none =>
      exact (runsAmong_finish left names later).mono fun name _ outcome runs =>
        .further (leads name) runs

end Joining

end Switchboard
