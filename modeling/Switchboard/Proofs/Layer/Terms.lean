import Switchboard.Proofs.Layer.Announcements

namespace Switchboard

/-!
# Programs and their terms

What is relied upon about the replies to a program, and what is guaranteed about its requests
in return, whoever else asks between them.  A program that abides by its terms asks nothing
that it may not ask, and ends as it should, wherever its replies are such.

Unlike a conduct, terms do not look back at the exchanges so far: what a program needs to
remember of a reply is said by the replies themselves.
-/

/-- What a program may ask, and what may be replied to it. -/
structure Terms where
  asks : Request → Prop
  gives : (request : Request) → request.Reply → Prop

/-- Where the replies are as they may be, so are the requests, and so is the end. -/
def Program.Abides (terms : Terms) (ends : α → Prop) : Program α → Prop
  | .done value => ends value
  | .step request resume =>
      terms.asks request ∧
        ∀ reply, terms.gives request reply → (resume reply).Abides terms ends

namespace Program

variable {terms : Terms} {ends : α → Prop}

/-- Programs in a row abide when the second does wherever the first ends. -/
theorem abides_bind (program : Program α) {next : α → Program β} {ends : β → Prop} :
    (program.bind next).Abides terms ends ↔
      program.Abides terms fun value => (next value).Abides terms ends := by
  induction program with
  | done value => rfl
  | step request resume inductionHypothesis =>
      refine and_congr Iff.rfl (forall_congr' fun reply => imp_congr Iff.rfl ?_)
      exact inductionHypothesis reply

theorem Abides.mono {program : Program α} {wider : α → Prop}
    (abides : program.Abides terms ends)
    (implies : ∀ value, ends value → wider value) :
    program.Abides terms wider := by
  induction program with
  | done value => exact implies value abides
  | step request resume inductionHypothesis =>
      exact ⟨abides.1, fun reply given => inductionHypothesis reply (abides.2 reply given)⟩

variable {State : Type} {handler : (request : Request) → State → request.Reply × State}

/--
A handler that keeps its side of the terms, as long as something holds that the requests leave
true, runs a program to such an end.
-/
theorem Abides.run {holds : State → Prop} {program : Program α} {state : State}
    (abides : program.Abides terms ends)
    (serves : ∀ request state, holds state → terms.asks request →
      terms.gives request (handler request state).1 ∧ holds (handler request state).2)
    (began : holds state) :
    ends (program.run handler state).1 ∧ holds (program.run handler state).2 := by
  induction program generalizing state with
  | done value => exact ⟨abides, began⟩
  | step request resume inductionHypothesis =>
      obtain ⟨given, still⟩ := serves request state began abides.1
      exact inductionHypothesis _ (abides.2 _ given) still

/-- Under any handler, a program abides by terms that give what it was given. -/
theorem Abides.exchanges {program : Program α} {state : State}
    (abides : program.Abides terms ends)
    (serves : ∀ exchange ∈ program.exchanges handler state,
      terms.gives exchange.request exchange.reply) :
    ends (program.run handler state).1 ∧
      ∀ exchange ∈ program.exchanges handler state, terms.asks exchange.request := by
  induction program generalizing state with
  | done value => exact ⟨abides, by simp [Program.exchanges]⟩
  | step request resume inductionHypothesis =>
      simp only [Program.exchanges, List.forall_mem_cons] at serves ⊢
      obtain ⟨ended, asked⟩ := inductionHypothesis _ (abides.2 _ serves.1) serves.2
      exact ⟨ended, abides.1, asked⟩

end Program

/-- Whatever an operation fails by is one of these. -/
def FailsOnlyBy (fails : ServiceError → Prop) (outcome : Except ServiceError α) : Prop :=
  ∀ error, outcome = .error error → fails error

namespace Operation

/-- An operation abides by terms as its program does. -/
abbrev Abides
    (terms : Terms)
    (ends : Except ServiceError α → Prop)
    (operation : Operation α) : Prop :=
  operation.run.Abides terms ends

variable {terms : Terms} {ends : Except ServiceError α → Prop}

theorem abides_pure {value : α} (ended : ends (.ok value)) :
    Abides terms ends (pure value : Operation α) :=
  ended

theorem abides_throw {error : ServiceError} (ended : ends (.error error)) :
    Abides terms ends (throw error : Operation α) :=
  ended

/-- An operation goes on where the one before succeeded, and ends where it failed. -/
theorem abides_bind {first : Operation β} {next : β → Operation α}
    (abides : first.Abides terms fun outcome =>
      match outcome with
      | .ok value => (next value).Abides terms ends
      | .error error => ends (.error error)) :
    (first >>= next).Abides terms ends := by
  refine (Program.abides_bind first.run).mpr (abides.mono fun outcome ended => ?_)
  cases outcome with
  | ok value => exact ended
  | error error => exact ended

/-- Where nothing matters of an end but how it failed, each part may go for itself. -/
theorem abides_bind_failing {fails : ServiceError → Prop} {first : Operation β}
    {next : β → Operation α}
    (abides : first.Abides terms (FailsOnlyBy fails))
    (goesOn : ∀ value, (next value).Abides terms (FailsOnlyBy fails)) :
    (first >>= next).Abides terms (FailsOnlyBy fails) := by
  refine abides_bind (abides.mono fun outcome ended => ?_)
  cases outcome with
  | ok value => exact goesOn value
  | error error => exact fun cause same => ended cause (by cases same; rfl)

/-- A program that cannot fail ends as it does by itself. -/
theorem abides_lift {program : Program α}
    (abides : program.Abides terms fun value => ends (.ok value)) :
    (ExceptT.lift program : Operation α).Abides terms ends :=
  (Program.abides_bind program).mpr abides

/-- The outcome of an attempt is no failure. -/
theorem abides_attempt {operation : Operation β}
    {ends : Except ServiceError (Except ServiceError β) → Prop}
    (abides : operation.Abides terms fun outcome => ends (.ok outcome)) :
    operation.attempt.Abides terms ends :=
  abides_lift abides

theorem abides_ask {request : Request} {ends : Except ServiceError request.Reply → Prop}
    (asks : terms.asks request)
    (ended : ∀ reply, terms.gives request reply → ends (.ok reply)) :
    (ask request).Abides terms ends :=
  ⟨asks, ended⟩

/-- A call ends as it is answered; one that is given up is counted first. -/
theorem abides_call {call : Call} {ends : Except ServiceError call.Answer → Prop}
    (asks : terms.asks (.call call))
    (counts : terms.asks (.count ⟨.storeTimeouts, [call.operation]⟩ 1))
    (ended : ∀ outcome, terms.gives (.call call) outcome →
      ends (outcome.toExcept call.operation)) :
    (Operation.call call).Abides terms ends := by
  refine abides_bind (abides_ask asks fun outcome given => ?_)
  cases outcome with
  | answered value => exact ended _ given
  | failed error => exact ended _ given
  | timedOut => exact abides_bind (abides_ask counts fun _ _ => ended _ given)

/-- What is checked ends the operation or lets it go on. -/
theorem abides_require {checked : Except ValidationError Unit}
    {ends : Except ServiceError Unit → Prop}
    (passed : checked = .ok () → ends (.ok ()))
    (refused : ∀ cause, checked = .error cause → ends (.error (.validation cause))) :
    (require checked).Abides terms ends := by
  unfold require
  cases checked with
  | ok value => exact abides_pure (passed rfl)
  | error cause => exact abides_throw (refused cause rfl)

end Operation

end Switchboard
