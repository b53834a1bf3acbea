/-!
# Latency histograms

Latencies are counted in eight buckets with rising upper bounds. A percentile is the bound of the
first bucket at which the running count reaches its share of the samples; the last bucket is open
and reports a cap of five seconds, which is also the answer where there are no samples.

Counts are words of 64 bits and wrap.
-/

namespace DnsForwarder.Metrics

/-- How many buckets there are. -/
abbrev bucketCount : Nat := 8

/-- The upper bounds of the buckets in milliseconds. -/
def bounds : List Nat := [5, 10, 20, 50, 100, 250, 500, 5000]

/-- The bound of the last bucket, which is reported for every latency above the others. -/
def worstCase : Nat := 5000

/-- The bucket of a latency in milliseconds: the first whose bound is above it, else the last. -/
def bucketOf (latency : Nat) : Fin bucketCount :=
  if latency < 5 then 0
  else if latency < 10 then 1
  else if latency < 20 then 2
  else if latency < 50 then 3
  else if latency < 100 then 4
  else if latency < 250 then 5
  else if latency < 500 then 6
  else 7

/-- Samples, failures among them, and samples by bucket. -/
structure Counts where
  total : UInt64
  errors : UInt64
  buckets : Vector UInt64 bucketCount
deriving DecidableEq

namespace Counts

/-- No samples. -/
def zero : Counts := ⟨0, 0, Vector.replicate bucketCount 0⟩

/-- One more sample. -/
def record (counts : Counts) (latency : Nat) (success : Bool) : Counts where
  total := counts.total + 1
  errors := if success then counts.errors else counts.errors + 1
  buckets :=
    let i := bucketOf latency
    counts.buckets.set i (counts.buckets[i] + 1)

/-- The samples of two histograms together. -/
def add (x y : Counts) : Counts where
  total := x.total + y.total
  errors := x.errors + y.errors
  buckets := Vector.zipWith (· + ·) x.buckets y.buckets

instance : Add Counts := ⟨add⟩

/-- The share of failures, zero without samples. -/
def errorRate (counts : Counts) : Float :=
  if counts.total = 0 then 0 else counts.errors.toFloat / counts.total.toFloat

end Counts

/-- The bound of the first bucket whose running count, on top of `before`, reaches the target; none
if the target is never reached. -/
def firstReaching (target : UInt64) : (before : UInt64) → List (UInt64 × Nat) → Option Nat
  | _, [] => none
  | before, (count, bound) :: rest =>
    let running := before + count
    if target ≤ running then some bound else firstReaching target running rest

/-- The bound at which the running count reaches a target. -/
def boundAt (buckets : List UInt64) (target : UInt64) : Nat :=
  (firstReaching target 0 (buckets.zip bounds)).getD worstCase

/-- A number kept between zero and one; a NaN stays a NaN. -/
def unitClamp (p : Float) : Float := if p < 0 then 0 else if 1 < p then 1 else p

/-- How many of the samples a percentile has to reach: at least one and at most all. -/
def share (total : UInt64) (p : Float) : UInt64 :=
  max 1 (min total (total.toFloat * unitClamp p).ceil.toUInt64)

/-- The latency in milliseconds that a part `p` of the samples does not exceed. -/
def percentile (buckets : List UInt64) (p : Float) : Nat :=
  let total := buckets.foldl (· + ·) 0
  if total = 0 then worstCase else boundAt buckets (share total p)

namespace Counts

/-- The latency in milliseconds that a part `p` of the samples does not exceed. -/
def percentile (counts : Counts) (p : Float) : Nat := Metrics.percentile counts.buckets.toList p

/-- Half of the samples are no slower. -/
def p50 (counts : Counts) : Nat := counts.percentile 0.50

/-- Nineteen in twenty samples are no slower. -/
def p95 (counts : Counts) : Nat := counts.percentile 0.95

/-- Ninety-nine in a hundred samples are no slower. -/
def p99 (counts : Counts) : Nat := counts.percentile 0.99

end Counts

end DnsForwarder.Metrics
