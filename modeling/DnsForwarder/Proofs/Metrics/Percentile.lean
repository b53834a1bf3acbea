import DnsForwarder.Metrics.Histogram
import Mathlib.Algebra.GroupWithZero.Nat
import Mathlib.Algebra.Order.Group.Nat
import Mathlib.Data.List.TakeDrop

/-!
# The walk to a percentile

A percentile walks through the buckets and adds up their counts until these reach a target. Whatever
number of samples is asked for, once that is clamped to what there is, the walk ends at the first
bucket with which the target is reached, which is not an empty one
(`DnsForwarder.Metrics.percentile_reaches`). The walk never runs past the last bucket, and a larger
target never ends it at a smaller bound.
-/

namespace DnsForwarder.Metrics

/-- How many samples some buckets hold together. -/
def held (counts : List UInt64) : Nat := (counts.map UInt64.toNat).sum

@[simp] theorem held_nil : held [] = 0 := rfl

/-- What the first bucket holds and what the others hold. -/
@[simp] theorem held_cons (count : UInt64) (counts : List UInt64) :
    held (count :: counts) = count.toNat + held counts := by
  simp only [held, List.map_cons, List.sum_cons]

/-- A bucket is the first with which the running count reaches a target. -/
structure FirstToReach (counts : List UInt64) (target place : Nat) : Prop where
  reached : target ≤ held (counts.take (place + 1))
  before : ∀ earlier < place, held (counts.take (earlier + 1)) < target

/-- A number of samples, brought within one and all of them. -/
def clamped (total product : UInt64) : UInt64 := max 1 (min total product)

/-- The sum of buckets does not wrap if all of them together can be counted. -/
theorem toNat_add_of_held {before count : UInt64} {counts : List UInt64}
    (few : before.toNat + held (count :: counts) < 2 ^ 64) :
    (before + count).toNat = before.toNat + count.toNat := by
  rw [held_cons] at few
  rw [UInt64.toNat_add, Nat.mod_eq_of_lt (by omega)]

/-- As long as a word can count the samples, adding the counts up gives their number. -/
theorem toNat_foldl_add {before : UInt64} {counts : List UInt64}
    (few : before.toNat + held counts < 2 ^ 64) :
    (counts.foldl (· + ·) before).toNat = before.toNat + held counts := by
  induction counts generalizing before with
  | nil => rfl
  | cons count rest ih =>
    have added := toNat_add_of_held few
    rw [held_cons, ← Nat.add_assoc] at few ⊢
    rw [List.foldl_cons, ih (by rwa [added]), added]

/-- A walk that starts below its target and can reach it ends at the first bucket that does so. -/
theorem exists_firstReaching {target before : UInt64} {counts : List UInt64} {limits : List Nat}
    (same : counts.length = limits.length) (few : before.toNat + held counts < 2 ^ 64)
    (below : before < target) (enough : target.toNat ≤ before.toNat + held counts) :
    ∃ place limit, limits[place]? = some limit ∧
      firstReaching target before (counts.zip limits) = some limit ∧
      target.toNat ≤ before.toNat + held (counts.take (place + 1)) ∧
      ∀ earlier < place, before.toNat + held (counts.take (earlier + 1)) < target.toNat := by
  induction counts generalizing before limits with
  | nil =>
    rw [UInt64.lt_iff_toNat_lt] at below
    rw [held_nil] at enough
    omega
  | cons count rest ih =>
    cases limits with
    | nil => cases same
    | cons limit others =>
      have added := toNat_add_of_held few
      rw [List.zip_cons_cons, firstReaching]
      by_cases reached : target ≤ before + count
      · refine ⟨0, limit, rfl, if_pos reached, ?_, nofun⟩
        rw [UInt64.le_iff_toNat_le, added] at reached
        simpa using reached
      · rw [held_cons, ← Nat.add_assoc, ← added] at few enough
        obtain ⟨place, found, present, ends, reaches, earlier⟩ :=
          ih (Nat.succ.inj same) few (UInt64.not_le.mp reached) enough
        refine ⟨place + 1, found, present, (if_neg reached).trans ends, ?_, ?_⟩
        · rwa [List.take_succ_cons, held_cons, ← Nat.add_assoc, ← added]
        · intro other inside
          rw [List.take_succ_cons, held_cons, ← Nat.add_assoc, ← added]
          cases other with
          | zero =>
            rw [List.take_zero, held_nil, Nat.add_zero]
            exact UInt64.lt_iff_toNat_lt.mp (UInt64.not_le.mp reached)
          | succ other => exact earlier other (Nat.lt_of_succ_lt_succ inside)

/-- What is reached with a bucket but not before is not reached with an empty one. -/
theorem FirstToReach.getElem_ne_zero {counts : List UInt64} {target place : Nat}
    (first : FirstToReach counts target place) (positive : 0 < target)
    (inside : place < counts.length) :
    counts[place] ≠ 0 := by
  intro empty
  have whole : held (counts.take (place + 1)) = held (counts.take place) := by
    rw [held, held, List.take_succ_eq_append_getElem inside, List.map_append,
      List.sum_append, empty]
    rfl
  have reached := first.reached
  rw [whole] at reached
  cases place with
  | zero =>
    rw [List.take_zero, held_nil] at reached
    omega
  | succ place =>
    have missed := first.before place (Nat.lt_succ_self place)
    omega

/-- What the walk ends at is the bound of one of the buckets. -/
theorem mem_of_firstReaching {target before : UInt64} {pairs : List (UInt64 × Nat)} {limit : Nat}
    (found : firstReaching target before pairs = some limit) : limit ∈ pairs.map Prod.snd := by
  induction pairs generalizing before with
  | nil => cases found
  | cons pair rest ih =>
    rw [firstReaching] at found
    split at found
    · cases found
      exact List.mem_cons_self
    · exact List.mem_cons_of_mem _ (ih found)

/-- Over rising limits, what is enough for a larger target is enough for a smaller one, and no
later. -/
theorem firstReaching_mono {less more before : UInt64} (le : less ≤ more)
    {pairs : List (UInt64 × Nat)} (rising : (pairs.map Prod.snd).Pairwise (· ≤ ·)) {limit : Nat}
    (found : firstReaching more before pairs = some limit) :
    ∃ other ≤ limit, firstReaching less before pairs = some other := by
  induction pairs generalizing before with
  | nil => cases found
  | cons pair rest ih =>
    obtain ⟨least, rising⟩ := List.pairwise_cons.mp rising
    rw [firstReaching] at found ⊢
    by_cases reached : less ≤ before + pair.1
    · refine ⟨pair.2, ?_, if_pos reached⟩
      split at found
      · cases found
        exact Nat.le_refl _
      · exact least limit (mem_of_firstReaching found)
    · have missed : ¬ more ≤ before + pair.1 := fun more_le => reached (UInt64.le_trans le more_le)
      rw [if_neg missed] at found
      rw [if_neg reached]
      exact ih rising found

/-- The bounds of the buckets grow. -/
theorem bounds_pairwise : bounds.Pairwise (· ≤ ·) := by decide

/-- No bound is above that of the last bucket. -/
theorem le_worstCase_of_mem_bounds : ∀ bound ∈ bounds, bound ≤ worstCase := by decide

/-- A larger target never gives a smaller bound. -/
theorem boundAt_mono {buckets : List UInt64} (whole : bounds.length ≤ buckets.length)
    {less more : UInt64} (le : less ≤ more) : boundAt buckets less ≤ boundAt buckets more := by
  have limits : (buckets.zip bounds).map Prod.snd = bounds := List.map_snd_zip whole
  have rising := limits ▸ bounds_pairwise
  unfold boundAt
  cases found : firstReaching more 0 (buckets.zip bounds) with
  | some limit =>
    obtain ⟨other, before, ends⟩ := firstReaching_mono le rising found
    rw [ends]
    exact before
  | none =>
    -- The walk to the larger target runs past the last bucket, which reports the cap.
    cases ends : firstReaching less 0 (buckets.zip bounds) with
    | some limit => exact le_worstCase_of_mem_bounds limit (limits ▸ mem_of_firstReaching ends)
    | none => exact Nat.le_refl _

/-- A target is put between one and all the samples. -/
theorem toNat_clamped (total product : UInt64) :
    (clamped total product).toNat = max 1 (min total.toNat product.toNat) := by
  have least : (min total product).toNat = min total.toNat product.toNat := by
    change (if total ≤ product then total else product).toNat = _
    simp only [UInt64.le_iff_toNat_le]
    split <;> omega
  have most : (max 1 (min total product)).toNat = max 1 (min total product).toNat := by
    change (if 1 ≤ min total product then min total product else 1).toNat = _
    simp only [UInt64.le_iff_toNat_le, UInt64.reduceToNat]
    split
    · omega
    · simp only [UInt64.reduceToNat]
      omega
  rw [clamped, most, least]

/-- With samples in the buckets, and no more than a word can count, whatever number of them is asked
for: the target is within one and all of them, the walk ends, and it ends at the first bucket with
which the running count reaches the target, which is not empty. A percentile asks for its part of
the samples, rounded up, and a larger target never gives a smaller bound. -/
theorem percentile_reaches (buckets : Vector UInt64 bucketCount)
    (measured : 0 < held buckets.toList) (few : held buckets.toList < 2 ^ 64) :
    let total := buckets.toList.foldl (· + ·) 0
    total.toNat = held buckets.toList ∧
      (∀ p, percentile buckets.toList p = boundAt buckets.toList
        (clamped total (total.toFloat * unitClamp p).ceil.toUInt64)) ∧
      (∀ product, let target := clamped total product
        1 ≤ target.toNat ∧ target.toNat ≤ held buckets.toList ∧ ∃ bucket : Fin bucketCount,
          FirstToReach buckets.toList target.toNat bucket ∧ buckets[bucket] ≠ 0 ∧
          firstReaching target 0 (buckets.toList.zip bounds) = some (bounds.get bucket) ∧
          boundAt buckets.toList target = bounds.get bucket) ∧
      ∀ less more, less ≤ more → boundAt buckets.toList less ≤ boundAt buckets.toList more := by
  intro total
  have size : buckets.toList.length = bounds.length := buckets.length_toList
  have none : (0 : UInt64).toNat + held buckets.toList = held buckets.toList := Nat.zero_add _
  have all : total.toNat = held buckets.toList := (toNat_foldl_add (none.trans_lt few)).trans none
  have some : total ≠ 0 := by
    intro zero
    rw [zero] at all
    exact measured.ne all
  refine ⟨all, fun p => if_neg some, ?_, fun _ _ => boundAt_mono size.ge⟩
  intro product target
  have target_eq : target.toNat = max 1 (min total.toNat product.toNat) :=
    toNat_clamped total product
  have positive : 1 ≤ target.toNat := by omega
  have within : target.toNat ≤ held buckets.toList := by omega
  obtain ⟨place, limit, present, ends, reached, before⟩ :=
    exists_firstReaching size (none.trans_lt few) (UInt64.lt_iff_toNat_lt.mpr positive)
      (within.trans none.ge)
  rw [UInt64.toNat_zero, Nat.zero_add] at reached
  simp only [UInt64.toNat_zero, Nat.zero_add] at before
  obtain ⟨inside, rfl⟩ := List.getElem?_eq_some_iff.mp present
  have first : FirstToReach buckets.toList target.toNat place := ⟨reached, before⟩
  refine ⟨positive, within, ⟨place, inside⟩, first, ?_, ends, ?_⟩
  · have full := first.getElem_ne_zero positive (size.ge.trans_lt' inside)
    rwa [Vector.getElem_toList] at full
  · rw [boundAt, ends]
    rfl

/-- Two buckets hold as many samples as a word can count, and the empty ones before, between and
behind them end no walk: one sample more than the first of them holds is found in the second. -/
theorem percentile_reaches_second :
    let buckets : Vector UInt64 bucketCount :=
      #v[0, 9223372036854775808, 0, 9223372036854775807, 0, 0, 0, 0]
    let total := buckets.toList.foldl (· + ·) 0
    0 < held buckets.toList ∧ held buckets.toList < 2 ^ 64 ∧
      boundAt buckets.toList (clamped total 9223372036854775809) = 50 ∧
      ∃ bucket : Fin bucketCount, FirstToReach buckets.toList 9223372036854775809 bucket ∧
        buckets.get bucket ≠ 0 ∧ bounds.get bucket = 50 := by
  intro buckets total
  have measured : 0 < held buckets.toList := by decide
  have few : held buckets.toList < 2 ^ 64 := by decide
  obtain ⟨-, -, reaches, -⟩ := percentile_reaches buckets measured few
  obtain ⟨-, -, bucket, first, full, -, bound⟩ := reaches 9223372036854775809
  have ends : boundAt buckets.toList (clamped total 9223372036854775809) = 50 := by decide
  exact ⟨measured, few, ends, bucket, first, full, bound.symm.trans ends⟩

end DnsForwarder.Metrics
