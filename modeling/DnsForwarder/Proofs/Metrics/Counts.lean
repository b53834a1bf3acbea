import DnsForwarder.Metrics.Histogram
import Mathlib.Algebra.BigOperators.Fin
import Mathlib.Algebra.BigOperators.Group.List.Basic
import Mathlib.Tactic.SplitIfs

/-!
# Adding histograms up

Histograms are a commutative monoid, and recording a sample adds the histogram of that sample alone,
so the histogram of a list of samples is a sum (`DnsForwarder.Metrics.tally`). As long as there are
fewer samples than a word can count, its numbers are those of the samples
(`DnsForwarder.Metrics.tallies_tally`): how many there are, how many of them failed, and how many
have a latency within the bounds of each bucket.
-/

namespace DnsForwarder.Metrics

/-- A measured query: the reading of the clock at which it is recorded, its latency in milliseconds,
and whether it succeeded. -/
structure Sample where
  time : Nat
  latency : Nat
  success : Bool
deriving DecidableEq, Repr

/-- The bounds of a bucket enclose a latency: the bounds before it are not above the latency, while
its own and those after it are. The bound of the last bucket is a cap only and encloses nothing. -/
def Encloses (bucket : Fin bucketCount) (latency : Nat) : Prop :=
  (∀ bound ∈ bounds.dropLast.take bucket, bound ≤ latency) ∧
    ∀ bound ∈ bounds.dropLast.drop bucket, latency < bound

instance (bucket : Fin bucketCount) (latency : Nat) : Decidable (Encloses bucket latency) :=
  inferInstanceAs (Decidable (_ ∧ _))

/-- The bucket that a latency is put into encloses it. -/
theorem encloses_bucketOf (latency : Nat) : Encloses (bucketOf latency) latency := by
  have place : (bucketOf latency).val =
      if latency < 5 then 0 else if latency < 10 then 1 else if latency < 20 then 2
      else if latency < 50 then 3 else if latency < 100 then 4 else if latency < 250 then 5
      else if latency < 500 then 6 else 7 := by
    unfold bucketOf
    split_ifs <;> rfl
  unfold Encloses
  rw [place]
  split_ifs <;> simp [bounds] <;> omega

/-- Only one bucket encloses a latency: each that does comes before every other that does. -/
theorem Encloses.le {first second : Fin bucketCount} {latency : Nat} (left : Encloses first latency)
    (right : Encloses second latency) : first ≤ second := by
  by_contra after
  -- The bound of the second bucket divides the two.
  have divides : second.val < bounds.dropLast.length :=
    Nat.lt_of_lt_of_le (not_le.mp after) (Nat.le_of_lt_succ first.isLt)
  have below := left.1 bounds.dropLast[second.val]
    (List.mem_take_iff_getElem.mpr ⟨second.val, by omega, rfl⟩)
  have above := right.2 bounds.dropLast[second.val]
    (List.mem_drop_iff_getElem.mpr ⟨0, by omega, rfl⟩)
  exact Nat.not_lt.mpr below above

/-- A latency is counted in the one bucket whose bounds enclose it. -/
theorem bucketOf_eq_iff (bucket : Fin bucketCount) (latency : Nat) :
    bucketOf latency = bucket ↔ Encloses bucket latency := by
  constructor
  · rintro rfl
    exact encloses_bucketOf latency
  · intro encloses
    exact le_antisymm ((encloses_bucketOf latency).le encloses)
      (encloses.le (encloses_bucketOf latency))

namespace Counts

/-- Counts are the same if they are the same number by number. -/
theorem eq_of_fields {x y : Counts} (total : x.total = y.total) (errors : x.errors = y.errors)
    (buckets : ∀ i (h : i < bucketCount), x.buckets[i] = y.buckets[i]) : x = y := by
  cases x
  cases y
  cases total
  cases errors
  exact congrArg _ (Vector.ext buckets)

instance : Zero Counts := ⟨zero⟩

@[simp] theorem zero_total : (0 : Counts).total = 0 := rfl

@[simp] theorem zero_errors : (0 : Counts).errors = 0 := rfl

@[simp] theorem zero_bucket (i : Nat) (h : i < bucketCount) : (0 : Counts).buckets[i] = 0 :=
  Vector.getElem_replicate h

@[simp] theorem add_total (x y : Counts) : (x + y).total = x.total + y.total := rfl

@[simp] theorem add_errors (x y : Counts) : (x + y).errors = x.errors + y.errors := rfl

@[simp] theorem add_bucket (x y : Counts) (i : Nat) (h : i < bucketCount) :
    (x + y).buckets[i] = x.buckets[i] + y.buckets[i] :=
  Vector.getElem_zipWith h

instance : AddCommMonoid Counts where
  add_assoc x y z :=
    eq_of_fields (UInt64.add_assoc ..) (UInt64.add_assoc ..) fun i h => by
      simp only [add_bucket, UInt64.add_assoc]
  zero_add x :=
    eq_of_fields (UInt64.zero_add _) (UInt64.zero_add _) fun i h => by
      simp only [add_bucket, zero_bucket, UInt64.zero_add]
  add_zero x :=
    eq_of_fields (UInt64.add_zero _) (UInt64.add_zero _) fun i h => by
      simp only [add_bucket, zero_bucket, UInt64.add_zero]
  add_comm x y :=
    eq_of_fields (UInt64.add_comm ..) (UInt64.add_comm ..) fun i h => by
      simp only [add_bucket, UInt64.add_comm]
  nsmul := nsmulRec

/-- Recording a sample adds the histogram of that sample alone. -/
theorem record_eq_add (counts : Counts) (latency : Nat) (success : Bool) :
    counts.record latency success = counts + zero.record latency success := by
  refine eq_of_fields rfl ?_ fun i h => ?_
  · cases success
    · rfl
    · exact (UInt64.add_zero _).symm
  · rw [add_bucket]
    by_cases same : bucketOf latency = i
    · subst same
      simp [record, zero]
    · simp [record, zero, Vector.getElem_set_ne _ _ same]

end Counts

/-- The histogram of a sample alone. -/
def Sample.counts (sample : Sample) : Counts := Counts.zero.record sample.latency sample.success

/-- The histogram of some samples. -/
def tally (samples : List Sample) : Counts := (samples.map Sample.counts).sum

@[simp] theorem tally_nil : tally [] = 0 := rfl

theorem tally_cons (sample : Sample) (samples : List Sample) :
    tally (sample :: samples) = sample.counts + tally samples :=
  List.sum_cons

/-- A tally adds up over parts of the samples. -/
theorem tally_append (first second : List Sample) :
    tally (first ++ second) = tally first + tally second := by
  rw [tally, List.map_append, List.sum_append, tally, tally]

/-- The tally of one sample. -/
@[simp] theorem tally_singleton (sample : Sample) : tally [sample] = sample.counts :=
  List.sum_singleton

/-- A tally counts the samples, as far as a word can. -/
theorem tally_total (samples : List Sample) :
    (tally samples).total = UInt64.ofNat samples.length := by
  induction samples with
  | nil => rfl
  | cons sample rest ih =>
    rw [tally_cons, Counts.add_total, ih, List.length_cons, Nat.add_comm, UInt64.ofNat_add]
    rfl

/-- A tally counts the samples that failed, as far as a word can. -/
theorem tally_errors (samples : List Sample) :
    (tally samples).errors = UInt64.ofNat (samples.countP (!·.success)) := by
  induction samples with
  | nil => rfl
  | cons sample rest ih =>
    rw [tally_cons, Counts.add_errors, ih, List.countP_cons, Nat.add_comm, UInt64.ofNat_add]
    cases sample with
    | mk time latency success => cases success <;> rfl

/-- A bucket of a tally counts the samples whose latency it encloses, as far as a word can. -/
theorem tally_bucket (samples : List Sample) (bucket : Fin bucketCount) :
    (tally samples).buckets[bucket] =
      UInt64.ofNat (samples.countP (Encloses bucket ·.latency)) := by
  induction samples with
  | nil => exact Counts.zero_bucket bucket bucket.isLt
  | cons sample rest ih =>
    have alone : sample.counts.buckets[bucket] =
        UInt64.ofNat (if Encloses bucket sample.latency then 1 else 0) := by
      simp only [← bucketOf_eq_iff]
      by_cases same : bucketOf sample.latency = bucket
      · subst same
        simp [Sample.counts, Counts.record, Counts.zero]
      · have apart : (bucketOf sample.latency).val ≠ bucket.val := fun h => same (Fin.ext h)
        simp [Sample.counts, Counts.record, Counts.zero, same, Vector.getElem_set_ne _ _ apart]
    rw [tally_cons, List.countP_cons, Nat.add_comm, UInt64.ofNat_add, ← ih]
    simp only [decide_eq_true_eq, ← alone]
    exact Counts.add_bucket _ _ _ bucket.isLt

/-- The numbers of a histogram are those of some samples. -/
structure Counts.Tallies (counts : Counts) (samples : List Sample) : Prop where
  total : counts.total.toNat = samples.length
  errors : counts.errors.toNat = samples.countP (!·.success)
  buckets : ∀ bucket : Fin bucketCount,
    counts.buckets[bucket].toNat = samples.countP (Encloses bucket ·.latency)

/-- As long as there are fewer samples than a word can count, a tally is exact. -/
theorem tallies_tally (samples : List Sample) (few : samples.length < 2 ^ 64) :
    (tally samples).Tallies samples where
  total := by
    rw [tally_total, UInt64.toNat_ofNat_of_lt' few]
  errors := by
    have bound : samples.countP (!·.success) ≤ samples.length := List.countP_le_length
    rw [tally_errors, UInt64.toNat_ofNat_of_lt' (Nat.lt_of_le_of_lt bound few)]
  buckets bucket := by
    have bound : samples.countP (Encloses bucket ·.latency) ≤ samples.length :=
      List.countP_le_length
    rw [tally_bucket, UInt64.toNat_ofNat_of_lt' (Nat.lt_of_le_of_lt bound few)]

namespace Counts.Tallies

variable {counts : Counts} {samples : List Sample}

/-- No more samples failed than there are. -/
theorem errors_le (tallies : counts.Tallies samples) : counts.errors ≤ counts.total := by
  rw [UInt64.le_iff_toNat_le, tallies.errors, tallies.total]
  exact List.countP_le_length

/-- Every sample is in one bucket. -/
theorem sum_buckets (tallies : counts.Tallies samples) :
    ∑ bucket, (counts.buckets.get bucket).toNat = counts.total.toNat := by
  have each (bucket : Fin bucketCount) : (counts.buckets.get bucket).toNat =
      samples.countP (bucketOf ·.latency = bucket) := by
    simp only [bucketOf_eq_iff]
    exact tallies.buckets bucket
  rw [tallies.total, Finset.sum_congr rfl fun bucket _ => each bucket]
  clear each tallies
  induction samples with
  | nil => rfl
  | cons sample rest ih =>
    simp only [List.countP_cons, Finset.sum_add_distrib, ih, decide_eq_true_eq,
      Finset.sum_ite_eq, Finset.mem_univ, if_true, List.length_cons]

end Counts.Tallies

end DnsForwarder.Metrics
