import Switchboard.Deployment.Handler
import Switchboard.Proofs.Layer.Changes
import Switchboard.Proofs.Store.Faults

namespace Switchboard

/-!
# Faults of backends

A backend of a deployment is out of reach, or finds a row that it cannot read.  It has no other
errors: what an instance refuses or finds in conflict, it does so by itself.
-/

namespace World

/-- The errors that backends give. -/
inductive IsFault : ServiceError → Prop where
  | cache : IsFault cacheRefusal
  | bus : IsFault busRefusal
  | store : IsFault storeRefusal
  | row {error : ServiceError} (fault : IsRowFault error) : IsFault error

variable {error : ServiceError}

/-- No backend finds a request invalid. -/
theorem IsFault.ne_validation (fault : IsFault error) (cause : ValidationError) :
    error ≠ .validation cause := by
  rintro rfl
  cases fault with
  | row fault => cases fault

theorem IsFault.isConflict (fault : IsFault error) : error.isConflict = false := by
  cases fault with
  | cache | bus | store => rfl
  | row fault => exact fault.isConflict

theorem IsFault.isForbidden (fault : IsFault error) : error.isForbidden = false := by
  cases fault with
  | cache | bus | store => rfl
  | row fault => cases fault <;> rfl

private theorem isFault_through
    {world : World}
    {health : Health}
    {timeout : Nat}
    {refusal : ServiceError}
    {answer : World → Except ServiceError α × World}
    (refuses : IsFault refusal)
    (answers : ∀ error, (answer world).1 = .error error → IsFault error)
    (failed : (world.through health timeout refusal answer).1 = .failed error) :
    IsFault error := by
  cases health with
  | failing =>
      cases failed
      exact refuses
  | hanging => cases failed
  | working =>
      rw [through_working rfl] at failed
      cases outcome : (answer world).1 with
      | ok value =>
          rw [outcome] at failed
          cases failed
      | error cause =>
          rw [outcome] at failed
          cases failed
          exact answers error outcome

private theorem failed_of_errorOf {asked : Call} {outcome : Outcome asked.Answer}
    (brought : (Request.call asked).errorOf outcome = some error) :
    outcome = .failed error := by
  cases outcome with
  | answered value => cases brought
  | failed cause =>
      cases brought
      rfl
  | timedOut => cases brought

private theorem isFault_answerCall (state : Instance) (place : Nat) (asked : Call) (world : World)
    (failed : (world.answerCall state place asked).1 = .failed error) :
    IsFault error := by
  cases asked with
  | cacheGet cacheKey => exact isFault_through .cache (fun _ none => by cases none) failed
  | cacheSet cacheKey text lifetime =>
      exact isFault_through .cache (fun _ none => by cases none) failed
  | cacheDelete cacheKey => exact isFault_through .cache (fun _ none => by cases none) failed
  | publish topic event => exact isFault_through .bus (fun _ none => by cases none) failed
  | readFlag environment key =>
      exact isFault_through .store (fun _ fault => .row (FlagTable.isRowFault_of_read fault)) failed
  | readFlagVersion environment key =>
      exact isFault_through .store
        (fun _ fault => .row (FlagTable.isRowFault_of_version fault)) failed
  | applyFlagWrite write expected =>
      refine isFault_through .store (fun cause fault => ?_) failed
      simp only [applyFlagWrite, readCalendar] at fault
      split at fault
      · cases fault
      · exact .row (FlagRow.isRowFault_of_decode (error_of_map fault))
  | findOverride scope now =>
      exact isFault_through .store
        (fun _ fault => .row (OverrideTable.isRowFault_of_find fault)) failed
  | upsertOverride scope value expiresAt =>
      exact isFault_through .store
        (fun _ fault => .row (OverrideRow.isRowFault_of_decode fault)) failed
  | clearOverride scope => exact isFault_through .store (fun _ none => by cases none) failed

/-- Whatever a deployment replies, an error of it is a fault of a backend. -/
theorem isFault_handle (world : World) (place : Nat) (request : Request)
    (brought : request.errorOf (world.handle place request).1 = some error) :
    IsFault error := by
  unfold handle at brought
  generalize world.instances[place]?.getD unreachable = state at brought
  cases request with
  | call asked => exact isFault_answerCall state place asked world (failed_of_errorOf brought)
  | listDead now limit =>
      simp only [answer] at brought
      split at brought
      · cases listed : world.database.overrides.listDead now limit with
        | ok dead =>
            rw [listed] at brought
            cases brought
        | error cause =>
            rw [listed] at brought
            cases brought
            exact .row (OverrideTable.isRowFault_of_listDead listed)
      · cases brought
        exact .store
  | purge ids now =>
      simp only [answer] at brought
      split at brought
      · cases brought
      · cases brought
        exact .store
  | readClock => cases brought
  | count counter amount => cases brought
  | observeBatch keys => cases brought
  | logExposures records => cases brought

end World

end Switchboard
