import DnsForwarder.Proofs.Metrics.Recording

/-!
# When a window is empty

A summary counts nothing exactly if nothing was recorded or the current slice started a whole window
ago (`DnsForwarder.Metrics.Window.summary_eq_zero_iff`): the current slice started after all the
others, and since the first sample it holds at least one. The current slice started at one of the
readings so far, so a window is empty once the clock has passed all of these by the length of the
window. A clock that is set back delays this: what is recorded then goes to a slice that starts
later than the reading, and stays in the summary until the clock has made up for the step and a
window has passed.
-/

namespace DnsForwarder.Metrics

/-- A slice holds a part of the samples, all of which are counted when it is summed. -/
theorem Hold.exists_part {slices : List Slice} {held : List Sample} (hold : Hold slices held)
    {index : Nat} {slice : Slice} (present : slices[index]? = some slice) :
    ∃ part, slice.counts = tally part ∧ part.Sublist held ∧
      ∀ (window : Window) (now : Nat), window.covers now slice = true →
        ∃ counted, part.Sublist counted ∧ counted.Sublist held ∧
          (slices.map (window.share now)).sum = tally counted := by
  induction hold generalizing index with
  | nil => exact nomatch present
  | @cons head slices own rest counts others ih =>
    cases index with
    | zero =>
      obtain rfl := Option.some.inj present
      refine ⟨own, counts, List.sublist_append_left own rest, fun window now covered => ?_⟩
      obtain ⟨counted, among, sum⟩ := others.exists_sum window now
      refine ⟨own ++ counted, List.sublist_append_left own counted, among.append_left own, ?_⟩
      rw [List.map_cons, List.sum_cons, sum, Window.share, if_pos covered, counts, tally_append]
    | succ index =>
      obtain ⟨part, same, inside, whole⟩ := ih present
      refine ⟨part, same, inside.trans (List.sublist_append_right own rest),
        fun window now covered => ?_⟩
      obtain ⟨counted, kept, among, sum⟩ := whole window now covered
      by_cases first : window.covers now head = true
      · refine ⟨own ++ counted, kept.trans (List.sublist_append_right own counted),
          among.append_left own, ?_⟩
        rw [List.map_cons, List.sum_cons, sum, Window.share, if_pos first, counts, tally_append]
      · refine ⟨counted, kept, among.trans (List.sublist_append_right own rest), ?_⟩
        rw [List.map_cons, List.sum_cons, sum, Window.share, if_neg first, zero_add]

/-- The tally of some samples is not zero, as long as a word can count them. -/
theorem tally_ne_zero {samples : List Sample} (nonempty : samples ≠ [])
    (few : samples.length < 2 ^ 64) :
    tally samples ≠ 0 := by
  intro none
  have total := (tallies_tally samples few).total
  rw [none] at total
  exact nonempty (List.length_eq_zero_iff.mp total.symm)

namespace Window

/-- Every slice is reached from the current one by going back less than once around. -/
theorem exists_back (window : Window) {index : Nat} (inside : index < window.slices.size) :
    ∃ back < window.slices.size, (index + back) % window.slices.size = window.current := by
  refine ⟨(window.current + (window.slices.size - index)) % window.slices.size,
    Nat.mod_lt _ window.size_pos, ?_⟩
  have lap : index + (window.current + (window.slices.size - index)) =
      window.current + window.slices.size := by
    omega
  rw [Nat.add_mod_mod, lap, Nat.add_mod_right, Nat.mod_eq_of_lt window.current_lt]

/-- No slice that was used started after the current one. -/
theorem Spaced.start_le {window : Window} (spaced : window.Spaced) {index : Nat} {slice : Slice}
    (present : window.slices[index]? = some slice) :
    slice.counts = 0 ∨ slice.start ≤ window.currentSlice.start := by
  obtain ⟨inside, -⟩ := Array.getElem?_eq_some_iff.mp present
  obtain ⟨back, behind, lands⟩ := window.exists_back inside
  rcases spaced.used_or_spaced index back slice present behind lands with unused | apart
  · exact .inl unused
  · exact .inr (Nat.le_trans (Nat.le_add_right _ _) apart)

/-- A whole window after the current slice started, nothing is summed. -/
theorem Spaced.summary_eq_zero {window : Window} (spaced : window.Spaced) {now : Nat}
    (expired : window.currentSlice.start + window.windowMs ≤ now) : window.summary now = 0 := by
  rw [summary_eq_sum]
  apply List.sum_eq_zero
  intro counts member
  obtain ⟨slice, among, rfl⟩ := List.mem_map.mp member
  obtain ⟨index, present⟩ := List.mem_iff_getElem?.mp among
  rw [Array.getElem?_toList] at present
  rcases spaced.start_le present with unused | earlier
  · rw [share, unused, ite_self]
  · have old : ¬ now - slice.start < window.windowMs := by omega
    simp only [share, covers, old, decide_false, Bool.false_eq_true, if_false]

section Run

variable (windowMs sliceMs first : Nat) (samples : List Sample)

/-- Whatever the clock reads, the slice that took the latest sample holds it. -/
theorem counts_currentSlice_ne_zero (nonempty : samples ≠ []) (few : samples.length < 2 ^ 64) :
    ((start windowMs sliceMs first).recordAll samples).currentSlice.counts ≠ 0 := by
  induction samples using List.reverseRecOn with
  | nil => exact absurd rfl nonempty
  | append_singleton samples sample _ =>
    rw [List.length_append, List.length_singleton] at few
    obtain ⟨held, hold, among⟩ := exists_hold windowMs sliceMs first samples
    obtain ⟨part, counts, inside, -⟩ :=
      hold.exists_part (Array.getElem?_toList.trans (slices_current _))
    have fewer : part.length ≤ samples.length := inside.length_le.trans among.length_le
    rw [recordAll_append_singleton, currentSlice_record]
    split
    · dsimp only
      rw [Counts.record_eq_add, counts, ← Sample.counts, ← tally_singleton, ← tally_append]
      apply tally_ne_zero (List.append_ne_nil_of_right_ne_nil part (List.cons_ne_nil sample []))
      rw [List.length_append, List.length_singleton]
      omega
    · dsimp only
      rw [← Sample.counts, ← tally_singleton]
      exact tally_ne_zero (List.cons_ne_nil sample []) (Nat.one_lt_two_pow (by decide))

/-- The current slice started when the ring was set up or when a sample was recorded. -/
theorem currentSlice_start_mem :
    ((start windowMs sliceMs first).recordAll samples).currentSlice.start ∈
      first :: samples.map Sample.time := by
  induction samples using List.reverseRecOn with
  | nil =>
    rw [recordAll, List.foldl_nil, currentSlice_start]
    exact List.mem_cons_self
  | append_singleton samples sample ih =>
    rw [recordAll_append_singleton, record_start, List.map_append, ← List.cons_append,
      List.mem_append]
    split
    · exact .inl ih
    · exact .inr (List.mem_singleton_self sample.time)

/-- In every run, whatever the clock reads, a summary is empty exactly if nothing was recorded or
the current slice started a whole window ago. That slice started at one of the readings so far, so
the summary is empty when a window has passed since a reading that no other reading so far is
after. -/
theorem summary_eq_zero_iff (now : Nat) (few : samples.length < 2 ^ 64) :
    let span := max windowMs (max sliceMs 1)
    let window := (start windowMs sliceMs first).recordAll samples
    (window.summary now = 0 ↔ samples = [] ∨ window.currentSlice.start + span ≤ now) ∧
      window.currentSlice.start ∈ first :: samples.map Sample.time ∧
      ∀ reading, Latest first samples reading → reading + span ≤ now → window.summary now = 0 := by
  intro span window
  have spaced : window.Spaced := (spaced_start windowMs sliceMs first).recordAll samples
  have length : window.windowMs = span := recordAll_windowMs _ samples
  have started : window.currentSlice.start ∈ first :: samples.map Sample.time :=
    currentSlice_start_mem windowMs sliceMs first samples
  have expires (expired : window.currentSlice.start + span ≤ now) : window.summary now = 0 := by
    apply spaced.summary_eq_zero
    rwa [length]
  refine ⟨⟨fun empty => ?_, ?_⟩, started, ?_⟩
  · -- A current slice that has not expired is summed, and it holds the latest sample.
    by_contra neither
    rw [not_or] at neither
    obtain ⟨nonempty, recent⟩ := neither
    obtain ⟨held, hold, among⟩ := exists_hold windowMs sliceMs first samples
    obtain ⟨part, counts, -, whole⟩ :=
      hold.exists_part (Array.getElem?_toList.trans window.slices_current)
    have covered : window.covers now window.currentSlice = true := by
      rw [covers, decide_eq_true_eq, length]
      omega
    obtain ⟨counted, kept, inside, sum⟩ := whole window now covered
    have filled := counts_currentSlice_ne_zero windowMs sliceMs first samples nonempty few
    have part_nonempty : part ≠ [] := fun none => filled (counts.trans (congrArg tally none))
    have counted_nonempty : counted ≠ [] :=
      fun none => part_nonempty (List.sublist_nil.mp (none ▸ kept))
    have fewer : counted.length ≤ samples.length := inside.length_le.trans among.length_le
    apply tally_ne_zero counted_nonempty (Nat.lt_of_le_of_lt fewer few)
    rw [← sum, ← summary_eq_sum]
    exact empty
  · rintro (rfl | expired)
    · exact summary_start windowMs sliceMs first now
    · exact expires expired
  · intro reading latest passed
    apply expires
    -- The current slice started at one of the readings, and this one is the latest.
    have before : window.currentSlice.start ≤ reading := by
      rcases List.mem_cons.mp started with same | recorded
      · exact same.trans_le latest.1
      · obtain ⟨sample, member, same⟩ := List.mem_map.mp recorded
        exact same.symm.trans_le (latest.2 sample member)
    omega

end Run

/-- The clock is set back before a sample is recorded and passes all readings by a window after
that. -/
theorem summary_eq_zero_iff_set_back :
    let samples : List Sample := [⟨100, 3, true⟩, ⟨40, 700, false⟩]
    let window := (start 10 5 90).recordAll samples
    samples.length < 2 ^ 64 ∧ Latest 90 samples 100 ∧ window.summary 110 = 0 ∧
    window.summary 109 ≠ 0 := by
  intro samples window
  have few : samples.length < 2 ^ 64 := by decide
  obtain ⟨empty, -, passed⟩ := summary_eq_zero_iff 10 5 90 samples 109 few
  have latest : Latest 90 samples 100 := ⟨by decide, by decide⟩
  obtain ⟨-, -, later⟩ := summary_eq_zero_iff 10 5 90 samples 110 few
  have slice : window.currentSlice.start = 100 := rfl
  refine ⟨few, latest, later 100 latest (by decide), fun none => ?_⟩
  rcases empty.mp none with nothing | expired
  · exact List.cons_ne_nil _ _ nothing
  · rw [slice] at expired
    exact absurd expired (by decide)

/-- A sample that is recorded after the clock was set back is still summed a window after its own
reading. -/
theorem summary_counts_expired :
    let sample : Sample := ⟨0, 3, true⟩
    let window := (start 10 5 100).recordAll [sample]
    sample.time + window.windowMs ≤ 10 ∧ window.summary 10 ≠ 0 := by
  decide

end Window
end DnsForwarder.Metrics
