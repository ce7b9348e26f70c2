import Switchboard.Metrics.Basic

namespace Switchboard

/-!
# Metrics report

The text in which metrics are scraped: the families in the order of their names,
each with a line of help, a line with its type and its series in the order of
their label values.  A labelled family appears once something was counted in it.
-/

/-- Whether a list of label values comes before another. -/
def labelsBefore : List String → List String → Bool
  | [], _ => true
  | _ :: _, [] => false
  | first :: firstRest, second :: secondRest =>
      decide (first < second) || (first == second && labelsBefore firstRest secondRest)

/-- A character of a label value. -/
def labelChar (c : Char) : List Char :=
  if c = '\\' then ['\\', '\\']
  else if c = '"' then ['\\', '"']
  else if c = '\n' then ['\\', 'n']
  else [c]

/-- A label with its value. -/
def labelText (name value : String) : String :=
  name ++ "=\"" ++ String.ofList (value.toList.flatMap labelChar) ++ "\""

/-- The labels of a series in braces, unless it has none. -/
def labelsText (names values : List String) : String :=
  if names.isEmpty then ""
  else "\x7b" ++ ",".intercalate (List.zipWith labelText names values) ++ "\x7d"

/-- The lines before the series of a family. -/
def familyHead (name help type : String) : List String :=
  ["# HELP " ++ name ++ " " ++ help, "# TYPE " ++ name ++ " " ++ type]

namespace CounterFamily

/-- The families in the order of their names. -/
def all : List CounterFamily :=
  [.cacheLookups, .evaluations, .exposureFailures, .exposureRecordsDropped,
    .exposureRecordsSent, .forbiddenAttempts, .invalidationFailures, .invalidationsPublished,
    .storeTimeouts, .versionConflicts]

end CounterFamily

namespace Metrics

/-- The series of a family in the order of their label values. -/
def series [Amount α] (metrics : Metrics α) (family : CounterFamily) : List (List String × α) :=
  if family.labels.isEmpty then
    [([], metrics.amount ⟨family, []⟩)]
  else
    let counted := metrics.counters.filter fun (counter, _) => counter.family == family
    (counted.map fun (counter, amount) => (counter.values, amount)).mergeSort
      fun first second => labelsBefore first.1 second.1

/-- The lines of a family of counters; none while it has no series. -/
def familyLines [Amount α] (metrics : Metrics α) (family : CounterFamily) : List String :=
  let series := metrics.series family
  if series.isEmpty then []
  else
    familyHead family.name family.help "counter" ++
      series.map fun (values, amount) =>
        family.name ++ labelsText family.labels values ++ " " ++ Amount.display amount

/-- The name under which the sizes of batches are reported. -/
def batchKeysName : String :=
  "loom_toggles_batch_keys"

/-- The line of one bound of the histogram. -/
def bucketLine (bound : String) (landed : Nat) : String :=
  batchKeysName ++ "_bucket" ++ labelsText ["le"] [bound] ++ " " ++ Amount.display landed

/-- The lines of the histogram. -/
def batchKeysLines [Amount α] (histogram : Histogram α) : List String :=
  familyHead batchKeysName "Keys per batch evaluation" "histogram" ++
    (histogram.atMost.map fun (bound, landed) => bucketLine (Amount.display bound) landed) ++
    [bucketLine "+Inf" histogram.count,
      batchKeysName ++ "_sum " ++ Amount.display histogram.sum,
      batchKeysName ++ "_count " ++ Amount.display histogram.count]

/-- The lines of the report. -/
def lines [Amount α] (metrics : Metrics α) : List String :=
  batchKeysLines metrics.batchKeys ++ CounterFamily.all.flatMap metrics.familyLines

/-- The number of families in the report. -/
def familyCount [Amount α] (metrics : Metrics α) : Nat :=
  1 + CounterFamily.all.countP fun family => !(metrics.series family).isEmpty

end Metrics

end Switchboard
