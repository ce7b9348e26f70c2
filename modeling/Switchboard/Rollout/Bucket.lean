import Switchboard.Rollout.Digest
import Switchboard.Text.Digits

namespace Switchboard

/-!
# Rollout buckets

The subjects of a rollout fall into a hundred buckets by the digest of their
identifier, and a rollout of so many percent takes that many buckets from the
first on.  The bucket of a subject never changes, so raising the percentage only
adds subjects.
-/

/-- The number of buckets. -/
def bucketCount : Nat :=
  100

/-- The bucket of a subject: the first word of its digest, modulo the number of buckets. -/
def bucketOf (subject : String) : Nat :=
  (Digest.sha1 subject.toUTF8.toList).a.toNat % bucketCount

/-- Whether a subject takes part in a rollout of the given percentage. -/
def inRollout (subject : String) (percentage : Nat) : Bool :=
  bucketOf subject < percentage

/-- Every bucket is below the number of buckets. -/
theorem bucketOf_lt (subject : String) : bucketOf subject < bucketCount :=
  Nat.mod_lt _ (by decide)

/-- A subject stays in when the percentage rises. -/
theorem inRollout_mono {subject : String} {lower higher : Nat} (rises : lower ≤ higher)
    (inside : inRollout subject lower) : inRollout subject higher := by
  simp only [inRollout, decide_eq_true_eq] at inside ⊢
  exact Nat.lt_of_lt_of_le inside rises

/-- How many of the subjects that a text and the numbers below `count` name each bucket has. -/
def bucketCounts (start : String) (count : Nat) : List Nat :=
  let landed := (List.range count).map fun index =>
    bucketOf (start ++ String.ofList (Text.decimal index))
  (landed.foldl (fun tally bucket => tally.modify bucket (· + 1))
    (Array.replicate bucketCount 0)).toList

end Switchboard
