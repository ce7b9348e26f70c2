import Switchboard.Text.Shortest

namespace Switchboard

/-!
# Metrics

Counters and one histogram.  A counter belongs to a family; the families with
labels have one counter for each list of label values that was ever counted, the
others have exactly one.  The amounts that are counted are natural numbers or
doubles.
-/

/-- The numbers that metrics add up. -/
class Amount (α : Type) where
  zero : α
  add : α → α → α
  atMost : α → Nat → Bool
  display : α → String

instance : Amount Nat where
  zero := 0
  add := Nat.add
  atMost amount bound := decide (amount ≤ bound)
  display amount := String.ofList (Text.decimal amount)

instance : Amount Float where
  zero := 0
  add := Float.add
  atMost amount bound := decide (amount ≤ bound.toFloat)
  display := Text.ofFloat

/-- The families of counters. -/
inductive CounterFamily where
  | cacheLookups
  | evaluations
  | exposureFailures
  | exposureRecordsDropped
  | exposureRecordsSent
  | forbiddenAttempts
  | invalidationFailures
  | invalidationsPublished
  | storeTimeouts
  | versionConflicts
  deriving DecidableEq, Repr

namespace CounterFamily

/-- The name under which a family is reported. -/
def name : CounterFamily → String
  | .cacheLookups => "loom_toggles_cache_lookups_total"
  | .evaluations => "loom_toggles_evaluations_total"
  | .exposureFailures => "loom_toggles_exposure_failures_total"
  | .exposureRecordsDropped => "loom_toggles_exposure_records_dropped_total"
  | .exposureRecordsSent => "loom_toggles_exposure_records_sent_total"
  | .forbiddenAttempts => "loom_toggles_forbidden_attempts_total"
  | .invalidationFailures => "loom_toggles_invalidation_failures_total"
  | .invalidationsPublished => "loom_toggles_invalidations_published_total"
  | .storeTimeouts => "loom_toggles_store_timeouts_total"
  | .versionConflicts => "loom_toggles_version_conflicts_total"

/-- What a family counts, for a reader of the report. -/
def help : CounterFamily → String
  | .cacheLookups => "Cache lookups by entry kind and outcome"
  | .evaluations => "Flag evaluations by resolution reason"
  | .exposureFailures => "Exposure batches the sink failed to log"
  | .exposureRecordsDropped => "Exposure records dropped on queue overflow"
  | .exposureRecordsSent => "Exposure records accepted by the sink"
  | .forbiddenAttempts => "Platform-only override changes rejected"
  | .invalidationFailures => "Invalidation events that could not be published"
  | .invalidationsPublished => "Invalidation events published"
  | .storeTimeouts => "Cache or store calls that exceeded the timeout"
  | .versionConflicts => "Flag writes rejected by the version check"

/-- The names of the labels of a family. -/
def labels : CounterFamily → List String
  | .cacheLookups => ["kind", "outcome"]
  | .evaluations => ["reason"]
  | .invalidationsPublished => ["event_type"]
  | .storeTimeouts => ["operation"]
  | _ => []

end CounterFamily

/-- A counter: its family and its label values. -/
structure Counter where
  family : CounterFamily
  values : List String := []
  deriving DecidableEq, Repr

/-- A histogram: how many observations are at most each bound, their sum and their number. -/
structure Histogram (α : Type) where
  atMost : List (Nat × Nat)
  sum : α
  count : Nat
  deriving DecidableEq, Repr

namespace Histogram

/-- The histogram without observations. -/
def empty [Amount α] (bounds : List Nat) : Histogram α where
  atMost := bounds.map fun bound => (bound, 0)
  sum := Amount.zero
  count := 0

/-- The histogram with one more observation. -/
def observe [Amount α] (histogram : Histogram α) (amount : α) : Histogram α where
  atMost := histogram.atMost.map fun (bound, landed) =>
    (bound, if Amount.atMost amount bound then landed + 1 else landed)
  sum := Amount.add histogram.sum amount
  count := histogram.count + 1

end Histogram

/-- Everything that is counted. -/
structure Metrics (α : Type) where
  counters : List (Counter × α)
  batchKeys : Histogram α
  deriving DecidableEq, Repr

namespace Metrics

/-- The bounds between which the sizes of batches are reported. -/
def batchBounds : List Nat :=
  [1, 2, 5, 10, 25, 50, 100, 250]

/-- The metrics before anything was counted. -/
def empty [Amount α] : Metrics α :=
  ⟨[], .empty batchBounds⟩

instance [Amount α] : Inhabited (Metrics α) :=
  ⟨empty⟩

/-- The amount of a counter. -/
def amount [Amount α] (metrics : Metrics α) (counter : Counter) : α :=
  (metrics.counters.lookup counter).getD Amount.zero

/-- Add an amount to a counter. -/
def add [Amount α] (metrics : Metrics α) (counter : Counter) (more : α) : Metrics α :=
  { metrics with
    counters :=
      (counter, Amount.add (metrics.amount counter) more) ::
        metrics.counters.filter fun (other, _) => other != counter }

/-- Add the number of keys of a batch. -/
def observeBatch [Amount α] (metrics : Metrics α) (keys : α) : Metrics α :=
  { metrics with batchKeys := metrics.batchKeys.observe keys }

/-- What is added to a counter is in it. -/
theorem amount_add [Amount α] (metrics : Metrics α) (counter : Counter) (more : α) :
    (metrics.add counter more).amount counter = Amount.add (metrics.amount counter) more := by
  simp [add, amount]

/-- Another counter is not taken out. -/
private theorem lookup_filter_other {counter other : Counter} (different : other ≠ counter)
    (counters : List (Counter × α)) :
    (counters.filter fun (found, _) => found != counter).lookup other =
      counters.lookup other := by
  induction counters with
  | nil => rfl
  | cons head rest inductionHypothesis =>
      obtain ⟨found, amount⟩ := head
      by_cases isCounter : found = counter
      · subst isCounter
        simp [List.lookup_cons, beq_eq_false_iff_ne.mpr different, inductionHypothesis]
      · simp [List.lookup_cons, isCounter, inductionHypothesis]

/-- What is added to one counter changes nothing about another. -/
theorem lookup_add_other [Amount α] {counter other : Counter} (metrics : Metrics α)
    (more : α) (different : other ≠ counter) :
    (metrics.add counter more).counters.lookup other = metrics.counters.lookup other := by
  simp [add, List.lookup_cons, beq_eq_false_iff_ne.mpr different, lookup_filter_other different]

/-- What is added to one counter is not in another. -/
theorem amount_add_other [Amount α] {counter other : Counter} (metrics : Metrics α)
    (more : α) (different : other ≠ counter) :
    (metrics.add counter more).amount other = metrics.amount other := by
  unfold amount
  rw [lookup_add_other metrics more different]

end Metrics

end Switchboard
