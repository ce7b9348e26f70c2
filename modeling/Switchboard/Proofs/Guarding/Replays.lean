import Switchboard.Proofs.Batch.Schedules
import Switchboard.Proofs.Guarding.Refusals

namespace Switchboard.Guarding

open Interleaving (Entry past past_append)

/-!
# Jobs by their own exchanges

What is left of a job is what its own exchanges leave of it, whatever else went on between them,
and each exchange was answered by the world that some first part of the turns led to.
-/

variable {jobs : Nat → Job}

theorem leads_take (turn : Turn) (floor : Floor jobs) (number : Nat) :
    (floor.programs number).Leads (past (turn.take floor).1 number)
      ((turn.take floor).2.programs number) := by
  cases turn with
  | meanwhile happening => exact .here _
  | resume other =>
      cases waiting : floor.programs other with
      | done outcome =>
          simp only [Turn.take, waiting]
          exact .here _
      | step request next =>
          simp only [Turn.take, waiting]
          by_cases here : number = other
          · subst here
            rw [waiting, Function.update_self]
            simpa [past] using .further _ (.here _)
          · have elsewhere : (other == number) = false := beq_eq_false_iff_ne.mpr (Ne.symm here)
            rw [Function.update_of_ne here]
            simpa [past, elsewhere] using .here _

/-- An exchange of a job takes it on, and the world. -/
theorem exists_step_of_take {number : Nat} {request : Request} {reply : request.Reply}
    {floor later : Floor jobs}
    (took : (Turn.resume number).take floor = ([⟨number, ⟨request, reply⟩⟩], later)) :
    ∃ next, floor.programs number = .step request next ∧
      floor.world.handle (jobs number).place request = (reply, later.world) ∧
        later.programs number = next reply := by
  cases waiting : floor.programs number with
  | done outcome => simp [Turn.take, waiting] at took
  | step asked next =>
      simp only [Turn.take, waiting, Prod.mk.injEq, List.cons.injEq, Entry.mk.injEq,
        Exchange.mk.injEq, true_and, and_true] at took
      obtain ⟨⟨rfl, answered⟩, rfl⟩ := took
      cases answered
      exact ⟨next, rfl, rfl, Function.update_self _ _ _⟩

/-- What turns leave of a job comes of the exchanges that the job made in them. -/
theorem leads_takeTurns (turns : List Turn) (floor : Floor jobs) (number : Nat) :
    (floor.programs number).Leads (past (takeTurns turns floor).1 number)
      ((takeTurns turns floor).2.programs number) := by
  induction turns generalizing floor with
  | nil => exact .here _
  | cons turn rest inductionHypothesis =>
      simp only [takeTurns, past_append]
      exact (leads_take turn floor number).trans (inductionHypothesis (turn.take floor).2)

/-- What a turn exchanges is answered by the world before it. -/
private theorem reply_of_mem_take {turn : Turn} {floor : Floor jobs} {entry : Entry}
    (member : entry ∈ (turn.take floor).1) :
    entry.exchange.reply =
      (floor.world.handle (jobs entry.number).place entry.exchange.request).1 := by
  cases turn with
  | meanwhile happening => cases member
  | resume number =>
      cases waiting : floor.programs number with
      | done outcome =>
          simp only [Turn.take, waiting] at member
          cases member
      | step request next =>
          simp only [Turn.take, waiting] at member
          cases List.mem_singleton.mp member
          rfl

/-- Each exchange of some turns was answered by the world that some first of them led to. -/
theorem exists_reply_of_mem_takeTurns {turns : List Turn} {floor : Floor jobs} {entry : Entry}
    (member : entry ∈ (takeTurns turns floor).1) :
    ∃ first, first <+: turns ∧ entry.exchange.reply =
      ((takeTurns first floor).2.world.handle (jobs entry.number).place
        entry.exchange.request).1 := by
  induction turns generalizing floor with
  | nil => cases member
  | cons turn rest inductionHypothesis =>
      rcases List.mem_append.mp member with now | later
      · exact ⟨[], List.nil_prefix, reply_of_mem_take now⟩
      · obtain ⟨first, isFirst, answered⟩ := inductionHypothesis later
        exact ⟨turn :: first, (List.prefix_cons_inj turn).mpr isFirst, answered⟩

end Switchboard.Guarding
