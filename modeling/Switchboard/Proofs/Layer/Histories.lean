import Switchboard.Program

namespace Switchboard

/-!
# What programs do of themselves

A program knows nothing but the replies that it got.  What it may ask next, and with what
it may end, is said over its exchanges so far, whatever the world around it does between
them, and is shown along the program.
-/

/-- A request and the reply that it got. -/
structure Exchange where
  request : Request
  reply : request.Reply

/-- What a program may ask after its exchanges, and with what it may end after them. -/
structure Conduct (α : Type) where
  asks : List Exchange → Request → Prop
  ends : List Exchange → α → Prop

namespace Conduct

/-- The same questions, and another end. -/
def ending (conduct : Conduct α) (ends : List Exchange → β → Prop) : Conduct β :=
  ⟨conduct.asks, ends⟩

end Conduct

/-- Whatever the replies to it are, a program keeps to a conduct after its exchanges. -/
def Program.Keeps (conduct : Conduct α) (past : List Exchange) : Program α → Prop
  | .done value => conduct.ends past value
  | .step request resume =>
      conduct.asks past request ∧
        ∀ reply, (resume reply).Keeps conduct (past ++ [⟨request, reply⟩])

/-- Programs in a row keep to a conduct when the second does wherever the first ends. -/
theorem Program.keeps_bind
    {conduct : Conduct β}
    {past : List Exchange}
    (program : Program α)
    (next : α → Program β) :
    (program.bind next).Keeps conduct past ↔
      program.Keeps (conduct.ending fun past value => (next value).Keeps conduct past) past := by
  induction program generalizing past with
  | done value => rfl
  | step request resume inductionHypothesis =>
      refine and_congr Iff.rfl (forall_congr' fun reply => ?_)
      exact inductionHypothesis reply

namespace Operation

/-- What an operation may end with after its exchanges, and what it may ask. -/
abbrev Keeps
    (conduct : Conduct (Except ServiceError α))
    (past : List Exchange)
    (operation : Operation α) : Prop :=
  operation.run.Keeps conduct past

variable {past : List Exchange}

section Rules

variable {conduct : Conduct (Except ServiceError α)}

theorem keeps_pure {value : α} (ends : conduct.ends past (.ok value)) :
    Keeps conduct past (pure value : Operation α) :=
  ends

theorem keeps_throw {error : ServiceError} (ends : conduct.ends past (.error error)) :
    Keeps conduct past (throw error : Operation α) :=
  ends

/-- An operation goes on where the one before succeeded, and ends where it failed. -/
theorem keeps_bind {first : Operation β} {next : β → Operation α}
    (kept :
      Keeps
        (conduct.ending fun past outcome =>
          match outcome with
          | .ok value => Keeps conduct past (next value)
          | .error error => conduct.ends past (.error error))
        past first) :
    Keeps conduct past (first >>= next) := by
  refine (Program.keeps_bind first.run _).mpr ?_
  have same :
      (fun (past : List Exchange) (outcome : Except ServiceError β) =>
          (ExceptT.bindCont next outcome : Program (Except ServiceError α)).Keeps conduct past) =
        fun past outcome =>
          match outcome with
          | .ok value => Keeps conduct past (next value)
          | .error error => conduct.ends past (.error error) := by
    funext past outcome
    cases outcome with
    | ok value => rfl
    | error error => rfl
  rw [same]
  exact kept

/-- The outcome of an attempt is no failure. -/
theorem keeps_attempt {operation : Operation β}
    {conduct : Conduct (Except ServiceError (Except ServiceError β))}
    (kept : Keeps (conduct.ending fun past outcome => conduct.ends past (.ok outcome)) past
      operation) :
    Keeps conduct past operation.attempt :=
  (Program.keeps_bind operation.run _).mpr kept

end Rules

theorem keeps_ask (request : Request) {conduct : Conduct (Except ServiceError request.Reply)}
    (asks : conduct.asks past request)
    (ends : ∀ reply, conduct.ends (past ++ [⟨request, reply⟩]) (.ok reply)) :
    Keeps conduct past (ask request) :=
  ⟨asks, ends⟩

theorem keeps_count {counter : Counter} {conduct : Conduct (Except ServiceError Unit)}
    (asks : conduct.asks past (.count counter 1))
    (ends : conduct.ends (past ++ [⟨.count counter 1, ()⟩]) (.ok ())) :
    Keeps conduct past (count counter) :=
  ⟨asks, fun _ => ends⟩

/-- A call ends as it is answered; one that is given up is counted first. -/
theorem keeps_call {call : Call} {conduct : Conduct (Except ServiceError call.Answer)}
    (asks : conduct.asks past (.call call))
    (counts : ∀ past counter amount, conduct.asks past (.count counter amount))
    (answered : ∀ value,
      conduct.ends (past ++ [⟨.call call, .answered value⟩]) (.ok value))
    (failed : ∀ error,
      conduct.ends (past ++ [⟨.call call, .failed error⟩]) (.error error))
    (timedOut :
      conduct.ends
        (past ++ [⟨.call call, .timedOut⟩] ++
          [⟨.count ⟨.storeTimeouts, [call.operation]⟩ 1, ()⟩])
        (.error (.timeout call.operation))) :
    Keeps conduct past (Operation.call call) := by
  refine keeps_bind (keeps_ask (.call call) asks fun reply => ?_)
  cases reply with
  | answered value => exact answered value
  | failed error => exact failed error
  | timedOut => exact keeps_bind (keeps_count (counts _ _ _) timedOut)

end Operation

end Switchboard
