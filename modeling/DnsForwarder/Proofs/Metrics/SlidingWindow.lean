import DnsForwarder.Proofs.Metrics.Ring

/-!
# What the sliding window counts

With a clock that never goes backwards, the samples of a run fall into two parts: earlier ones that
are not summed and later ones that are. A sample is in a slice that started less than the length of
a slice before it, so it is still summed when it is younger than the window by that length, and not
summed any more when it is as old as the window
(`DnsForwarder.Metrics.Window.summary_counts_recent`).
-/

namespace DnsForwarder.Metrics.Window

/-- Records samples one after the other. -/
def recordAll (window : Window) (samples : List Sample) : Window :=
  samples.foldl
    (fun window sample => window.record sample.time sample.latency sample.success) window

/-- The last sample is recorded after the others. -/
theorem recordAll_append_singleton (window : Window) (samples : List Sample) (sample : Sample) :
    window.recordAll (samples ++ [sample]) =
      (window.recordAll samples).record sample.time sample.latency sample.success := by
  rw [recordAll, List.foldl_append]
  rfl

/-- Recording samples does not change the length of the window. -/
@[simp] theorem recordAll_windowMs (window : Window) (samples : List Sample) :
    (window.recordAll samples).windowMs = window.windowMs := by
  induction samples using List.reverseRecOn with
  | nil => rfl
  | append_singleton samples sample ih => rw [recordAll_append_singleton, record_windowMs, ih]

/-- Recording samples does not change the length of the slices. -/
@[simp] theorem recordAll_sliceMs (window : Window) (samples : List Sample) :
    (window.recordAll samples).sliceMs = window.sliceMs := by
  induction samples using List.reverseRecOn with
  | nil => rfl
  | append_singleton samples sample ih => rw [recordAll_append_singleton, record_sliceMs, ih]

/-- The slices stay spaced in every run, whatever the clock reads. -/
theorem Spaced.recordAll {window : Window} (spaced : window.Spaced) (samples : List Sample) :
    (window.recordAll samples).Spaced := by
  induction samples using List.reverseRecOn with
  | nil => exact spaced
  | append_singleton samples sample ih =>
    rw [recordAll_append_singleton]
    exact ih.record sample.time sample.latency sample.success

/-- The summary of a window that has just been set up is zero. -/
theorem summary_start (windowMs sliceMs first now : Nat) :
    (start windowMs sliceMs first).summary now = 0 := by
  rw [summary_eq_sum]
  refine List.sum_eq_zero fun counts member => ?_
  obtain ⟨slice, present, rfl⟩ := List.mem_map.mp member
  have unused : slice.counts = 0 := by
    simp only [start, Array.toList_append, Array.toList_replicate, List.mem_append,
      List.mem_singleton, List.mem_replicate] at present
    obtain rfl | ⟨-, rfl⟩ := present
    · rfl
    · rfl
  rw [share, unused, ite_self]

/-- A reading that is not before any reading so far. -/
def Latest (first : Nat) (samples : List Sample) (now : Nat) : Prop :=
  first ≤ now ∧ ∀ sample ∈ samples, sample.time ≤ now

/-- The latest reading of a run is as late as that of its beginning, and as its last sample. -/
theorem Latest.of_append {first now : Nat} {samples : List Sample} {sample : Sample}
    (latest : Latest first (samples ++ [sample]) now) :
    Latest first samples now ∧ sample.time ≤ now :=
  ⟨⟨latest.1, fun other member => latest.2 other (List.mem_append_left _ member)⟩,
    latest.2 sample (List.mem_append_right _ (List.mem_singleton_self sample))⟩

/-- The state of a window after samples whose readings rise from a first one: the slices are spaced,
the current one has started, and what is summed at any later reading are the samples after a certain
point, which is the end if the current slice is not summed. -/
structure Follows (window : Window) (first : Nat) (samples : List Sample) : Prop where
  spaced : window.Spaced
  started : ∀ now, Latest first samples now → window.currentSlice.start ≤ now
  split : ∀ now, Latest first samples now → ∃ expired counted,
    samples = expired ++ counted ∧
    (∀ sample ∈ expired, window.windowMs - window.sliceMs < now - sample.time) ∧
    (∀ sample ∈ counted, now - sample.time < window.windowMs) ∧
    window.summary now = tally counted ∧
    (counted = [] ∨ now - window.currentSlice.start < window.windowMs)

/-- A window that has just been set up follows a run without samples. -/
theorem follows_start (windowMs sliceMs first : Nat) :
    (start windowMs sliceMs first).Follows first [] where
  spaced := spaced_start windowMs sliceMs first
  started := by
    intro now latest
    rw [currentSlice_start]
    exact latest.1
  split now _ :=
    ⟨[], [], rfl, fun _ member => absurd member List.not_mem_nil,
      fun _ member => absurd member List.not_mem_nil, summary_start windowMs sliceMs first now,
      .inl rfl⟩

/-- One more sample, recorded at a reading that is not before any other. -/
theorem Follows.record {window : Window} {first : Nat} {samples : List Sample}
    (follows : window.Follows first samples) (sample : Sample)
    (latest : Latest first samples sample.time) :
    (window.record sample.time sample.latency sample.success).Follows first
      (samples ++ [sample]) := by
  have begun := follows.started sample.time latest
  have start := window.record_start sample.time sample.latency sample.success
  have sliceMs_pos := follows.spaced.slice_pos
  have slice_le := follows.spaced.slice_le
  -- The slice that takes the sample started at most the length of a slice before it.
  have home : (window.record sample.time sample.latency sample.success).currentSlice.start ≤
        sample.time ∧ sample.time - (window.record sample.time sample.latency
          sample.success).currentSlice.start < window.sliceMs ∧
      window.currentSlice.start ≤
        (window.record sample.time sample.latency sample.success).currentSlice.start := by
    rw [start]
    split <;> omega
  obtain ⟨home_le, home_near, home_after⟩ := home
  refine ⟨follows.spaced.record _ _ _, fun now later => le_trans home_le later.of_append.2, ?_⟩
  intro now later
  obtain ⟨before, recorded⟩ := later.of_append
  obtain ⟨expired, counted, together, old, young, summed, last⟩ := follows.split now before
  have added := follows.spaced.summary_record sample.latency sample.success recorded
  rw [record_windowMs, record_sliceMs, added, summed, together]
  by_cases covered : now - (window.record sample.time sample.latency
      sample.success).currentSlice.start < window.windowMs
  · refine ⟨expired, counted ++ [sample], List.append_assoc .., old, ?_, ?_, .inr covered⟩
    · intro other member
      obtain earlier | rfl := List.mem_append.mp member |>.imp_right List.mem_singleton.mp
      · exact young other earlier
      · omega
    · rw [if_pos covered, tally_append, tally_singleton]
      rfl
  · -- A slice that is not summed is followed by none that is, so nothing was summed before either.
    have nothing : counted = [] := last.resolve_right (by omega)
    subst nothing
    refine ⟨expired ++ [sample], [], ?_, ?_, fun _ member => absurd member List.not_mem_nil, ?_,
      .inl rfl⟩
    · rw [List.append_nil, List.append_nil]
    · intro other member
      obtain earlier | rfl := List.mem_append.mp member |>.imp_right List.mem_singleton.mp
      · exact old other earlier
      · omega
    · rw [if_neg covered, add_zero]

/-- By induction over a run whose readings do not fall, a window follows it. -/
theorem follows_recordAll (windowMs sliceMs first : Nat) (samples : List Sample)
    (rising : (first :: samples.map Sample.time).Pairwise (· ≤ ·)) :
    ((start windowMs sliceMs first).recordAll samples).Follows first samples := by
  induction samples using List.reverseRecOn with
  | nil => exact follows_start windowMs sliceMs first
  | append_singleton samples sample ih =>
    rw [List.map_append, ← List.cons_append, List.pairwise_append] at rising
    obtain ⟨earlier, -, last⟩ := rising
    have below := fun reading member => last reading member sample.time (List.mem_singleton_self _)
    rw [recordAll_append_singleton]
    refine (ih earlier).record sample ⟨below first List.mem_cons_self, fun other member => ?_⟩
    exact below other.time (List.mem_cons_of_mem _ (List.mem_map_of_mem member))

/-- With a clock that never goes backwards, a summary counts the samples after a certain point of
the run, each once: all that are younger than the window by the length of a slice and none that is
as old as the window. Each is counted in the bucket that encloses its latency, and as an error if it
failed. -/
theorem summary_counts_recent (windowMs sliceMs first now : Nat) (samples : List Sample)
    (rising : (first :: samples.map Sample.time ++ [now]).Pairwise (· ≤ ·))
    (few : samples.length < 2 ^ 64) :
    let slice := max sliceMs 1
    let span := max windowMs slice
    let counts := ((start windowMs sliceMs first).recordAll samples).summary now
    ∃ expired counted, samples = expired ++ counted ∧
      (∀ sample ∈ expired, span - slice < now - sample.time) ∧
      (∀ sample ∈ counted, now - sample.time < span) ∧
      counts.Tallies counted ∧
      ∑ bucket, (counts.buckets.get bucket).toNat = counts.total.toNat ∧
      counts.errors ≤ counts.total := by
  intro slice span counts
  rw [List.pairwise_append] at rising
  obtain ⟨earlier, -, last⟩ := rising
  have below := fun reading member => last reading member now (List.mem_singleton_self _)
  have latest : Latest first samples now :=
    ⟨below first List.mem_cons_self, fun sample member =>
      below sample.time (List.mem_cons_of_mem _ (List.mem_map_of_mem member))⟩
  have follows := follows_recordAll windowMs sliceMs first samples earlier
  obtain ⟨expired, counted, together, old, young, summed, -⟩ := follows.split now latest
  rw [recordAll_windowMs] at old young
  rw [recordAll_sliceMs] at old
  have fewer : counted.length < 2 ^ 64 := by
    rw [together, List.length_append] at few
    omega
  have tallies : counts.Tallies counted := by
    rw [show counts = tally counted from summed]
    exact tallies_tally counted fewer
  exact ⟨expired, counted, together, old, young, tallies, tallies.sum_buckets, tallies.errors_le⟩

/-- A run that laps its ring of three slices. -/
theorem summary_counts_recent_lap :
    let samples : List Sample := [⟨0, 4, true⟩, ⟨1, 700, false⟩, ⟨2, 99, true⟩, ⟨5, 5, false⟩,
      ⟨9, 250, true⟩, ⟨9, 6000, false⟩]
    (0 :: samples.map Sample.time ++ [10]).Pairwise (· ≤ ·) ∧ samples.length < 2 ^ 64 ∧
      let counts := ((start 5 2 0).recordAll samples).summary 10
      ∃ expired counted, samples = expired ++ counted ∧
        (∀ sample ∈ expired, 5 - 2 < 10 - sample.time) ∧
        (∀ sample ∈ counted, 10 - sample.time < 5) ∧
        counts.Tallies counted ∧
        ∑ bucket, (counts.buckets.get bucket).toNat = counts.total.toNat ∧
        counts.errors ≤ counts.total :=
  ⟨by decide, by decide, summary_counts_recent 5 2 0 10 _ (by decide) (by decide)⟩

end DnsForwarder.Metrics.Window
