import DnsForwarder.Proofs.Metrics.SlidingWindow
import Mathlib.Data.List.Perm.Subperm

/-!
# Recording one more sample

Whatever the clock reads, the slices of a ring hold recorded samples, each sample at most once
(`DnsForwarder.Metrics.Window.exists_tally`), so a summary never counts more samples than there
were. A sample that is recorded shows at once: at the same reading, the summary has that sample more
and is otherwise the same, because a turn of the ring clears only a slice that was skipped or holds
nothing (`DnsForwarder.Metrics.Window.summary_record_adds_one`).
-/

namespace DnsForwarder.Metrics

/-- Slices hold samples, each slice its part of them. -/
inductive Hold : List Slice → List Sample → Prop where
  | nil : Hold [] []
  | cons {slice : Slice} {slices : List Slice} {part rest : List Sample}
      (counts : slice.counts = tally part) (others : Hold slices rest) :
      Hold (slice :: slices) (part ++ rest)

namespace Hold

/-- The slices that are summed count some of the samples that all of them hold. -/
theorem exists_sum {slices : List Slice} {held : List Sample} (hold : Hold slices held)
    (window : Window) (now : Nat) :
    ∃ counted, counted.Sublist held ∧ (slices.map (window.share now)).sum = tally counted := by
  induction hold with
  | nil => exact ⟨[], List.Sublist.refl [], rfl⟩
  | @cons slice slices part rest counts _ ih =>
    obtain ⟨counted, among, sum⟩ := ih
    rw [List.map_cons, List.sum_cons, sum, Window.share]
    split
    · exact ⟨part ++ counted, among.append_left part, by rw [counts, tally_append]⟩
    · exact ⟨counted, among.trans (List.sublist_append_right part rest), zero_add _⟩

/-- A slice that comes to hold one more sample, and perhaps fewer of the others, adds no more to the
samples that all of them hold. -/
theorem modify {slices : List Slice} {held : List Sample} (hold : Hold slices held)
    {sample : Sample} {f : Slice → Slice} (index : Nat)
    (taken : ∀ slice part, slices[index]? = some slice → slice.counts = tally part →
      ∃ after, (f slice).counts = tally after ∧ after.Subperm (part ++ [sample])) :
    ∃ after, Hold (slices.modify index f) after ∧ after.Subperm (held ++ [sample]) := by
  induction hold generalizing index with
  | nil => exact ⟨[], by rw [List.modify_nil]; exact .nil, List.nil_subperm⟩
  | @cons slice slices part rest counts others ih =>
    have last : (part ++ [sample] ++ rest).Perm (part ++ rest ++ [sample]) := by
      rw [List.append_assoc, List.append_assoc]
      exact List.perm_append_comm.append_left part
    cases index with
    | zero =>
      obtain ⟨after, same, few⟩ := taken slice part rfl counts
      refine ⟨after ++ rest, ?_, ((List.subperm_append_right rest).mpr few).trans last.subperm⟩
      rw [List.modify_zero_cons]
      exact .cons same others
    | succ index =>
      obtain ⟨after, holds, few⟩ := ih index taken
      refine ⟨part ++ after, ?_, ?_⟩
      · rw [List.modify_succ_cons]
        exact .cons counts holds
      · rw [List.append_assoc]
        exact (List.subperm_append_left part).mpr few

end Hold

namespace Window

/-- A window that has just been set up holds no samples. -/
theorem hold_start (windowMs sliceMs first : Nat) :
    Hold (start windowMs sliceMs first).slices.toList [] := by
  have unused (count : Nat) : Hold (List.replicate count Slice.unused) [] := by
    induction count with
    | zero => exact .nil
    | succ count ih => exact show Hold _ ([] ++ []) from .cons rfl ih
  simp only [start, Array.toList_append, Array.toList_replicate]
  exact show Hold _ ([] ++ []) from .cons rfl (unused _)

/-- Recording puts the sample into one slice and leaves what the others hold. -/
theorem exists_hold_record {window : Window} {held : List Sample}
    (hold : Hold window.slices.toList held) (sample : Sample) :
    ∃ after, Hold (window.record sample.time sample.latency sample.success).slices.toList after ∧
      after.Subperm (held ++ [sample]) := by
  obtain ⟨-, -, slices⟩ | ⟨-, -, slices⟩ :=
    window.record_cases sample.time sample.latency sample.success
  · rw [slices, Array.toList_modify]
    refine hold.modify window.current fun slice part _ counts =>
      ⟨part ++ [sample], ?_, List.Subperm.refl _⟩
    rw [tally_append, tally_singleton, ← counts]
    exact Counts.record_eq_add slice.counts sample.latency sample.success
  · rw [slices, Array.toList_modify]
    refine hold.modify window.next fun slice part _ _ =>
      ⟨[sample], (tally_singleton sample).symm, ?_⟩
    exact (List.sublist_append_right part [sample]).subperm

/-- In every run, whatever the clock reads, the slices hold some of the samples. -/
theorem exists_hold (windowMs sliceMs first : Nat) (samples : List Sample) :
    ∃ held, Hold ((start windowMs sliceMs first).recordAll samples).slices.toList held ∧
      held.Subperm samples := by
  induction samples using List.reverseRecOn with
  | nil => exact ⟨[], hold_start windowMs sliceMs first, List.Subperm.refl []⟩
  | append_singleton samples sample ih =>
    obtain ⟨held, hold, among⟩ := ih
    obtain ⟨after, holds, few⟩ := exists_hold_record hold sample
    rw [recordAll_append_singleton]
    exact ⟨after, holds, few.trans ((List.subperm_append_right [sample]).mpr among)⟩

/-- In every run, whatever the clock reads, a summary counts some of the samples, none of them
twice. -/
theorem exists_tally (windowMs sliceMs first : Nat) (samples : List Sample) (now : Nat) :
    ∃ counted, counted.Subperm samples ∧
      ((start windowMs sliceMs first).recordAll samples).summary now = tally counted := by
  obtain ⟨held, hold, among⟩ := exists_hold windowMs sliceMs first samples
  obtain ⟨counted, sublist, sum⟩ := hold.exists_sum _ now
  exact ⟨counted, sublist.subperm.trans among, (summary_eq_sum _ now).trans sum⟩

/-- As long as a word can count all the samples there are, what a summary and further samples add up
to is the histogram of those it counts and the further ones. -/
theorem exists_tallies_add (windowMs sliceMs first : Nat) (earlier samples : List Sample)
    (now : Nat) (few : earlier.length + samples.length < 2 ^ 64) :
    let before := ((start windowMs sliceMs first).recordAll earlier).summary now
    ∃ counted, before.Tallies counted ∧ (before + tally samples).Tallies (counted ++ samples) := by
  intro before
  obtain ⟨counted, among, summed⟩ := exists_tally windowMs sliceMs first earlier now
  have fewer := among.length_le
  have before_tallies := tallies_tally counted (by omega)
  have after_tallies := tallies_tally (counted ++ samples) (by rw [List.length_append]; omega)
  rw [tally_append] at after_tallies
  rw [← summed] at before_tallies after_tallies
  exact ⟨counted, before_tallies, after_tallies⟩

/-- The slice that takes a sample is summed at the same reading. -/
theorem Spaced.covers_record {window : Window} (spaced : window.Spaced) (now latency : Nat)
    (success : Bool) :
    now - (window.record now latency success).currentSlice.start < window.windowMs := by
  have slice_pos := spaced.slice_pos
  have slice_le := spaced.slice_le
  rw [record_start]
  split <;> omega

/-- A sample that is recorded shows in the summary at the same reading. -/
theorem Spaced.summary_record_now {window : Window} (spaced : window.Spaced) (sample : Sample) :
    (window.record sample.time sample.latency sample.success).summary sample.time =
      window.summary sample.time + sample.counts := by
  rw [spaced.summary_record sample.latency sample.success (Nat.le_refl sample.time),
    if_pos (spaced.covers_record sample.time sample.latency sample.success)]
  rfl

/-- As long as the clock stands still, the summary has all the samples more that are recorded. -/
theorem Spaced.summary_recordAll_now {window : Window} (spaced : window.Spaced) {now : Nat}
    {samples : List Sample} (still : ∀ sample ∈ samples, sample.time = now) :
    (window.recordAll samples).summary now = window.summary now + tally samples := by
  induction samples using List.reverseRecOn with
  | nil => exact (add_zero _).symm
  | append_singleton samples sample ih =>
    obtain ⟨others, last⟩ := List.forall_mem_append.mp still
    obtain rfl := last sample (List.mem_singleton_self sample)
    rw [recordAll_append_singleton, (spaced.recordAll samples).summary_record_now, ih others,
      tally_append, tally_singleton, add_assoc]

/-- A slice is left as it is or has the sample added, unless it was skipped or holds nothing. -/
theorem Spaced.kept_or_spent {window : Window} (spaced : window.Spaced) (now latency : Nat)
    (success : Bool) {index : Nat} {slice : Slice} (present : window.slices[index]? = some slice) :
    (window.record now latency success).slices[index]? = some slice ∨
      (window.record now latency success).slices[index]? =
        some { slice with counts := slice.counts.record latency success } ∨
      window.covers now slice = false ∨ slice.counts = 0 := by
  obtain ⟨-, -, slices⟩ | ⟨old, -, slices⟩ := window.record_cases now latency success
  · rw [slices, Array.getElem?_modify, present]
    by_cases same : window.current = index
    · rw [if_pos same]
      exact .inr (.inl rfl)
    · rw [if_neg same]
      exact .inl rfl
  · rw [slices, Array.getElem?_modify, present]
    by_cases same : window.next = index
    · subst same
      have nothing := spaced.share_next present old (Nat.le_refl now)
      rw [share] at nothing
      cases covered : window.covers now slice with
      | false => exact .inr (.inr (.inl rfl))
      | true =>
        rw [covered, if_pos rfl] at nothing
        exact .inr (.inr (.inr nothing))
    · rw [if_neg same]
      exact .inl rfl

/-- In every run, whatever the clock reads, a sample that is recorded shows in the summary at the
same reading, which is otherwise what it was: there is one sample more, one error more if the sample
is a failure, and one more in the bucket that encloses its latency. No slice loses samples, unless
the summary skipped it. -/
theorem summary_record_adds_one (windowMs sliceMs first : Nat) (samples : List Sample)
    (sample : Sample) (few : samples.length + 1 < 2 ^ 64) :
    let window := (start windowMs sliceMs first).recordAll samples
    let recorded := window.record sample.time sample.latency sample.success
    let before := window.summary sample.time
    let after := recorded.summary sample.time
    after.total.toNat = before.total.toNat + 1 ∧
      after.errors.toNat = before.errors.toNat + (if sample.success then 0 else 1) ∧
      (∃ bucket, Encloses bucket sample.latency ∧
        after.buckets[bucket].toNat = before.buckets[bucket].toNat + 1 ∧
        ∀ other ≠ bucket, after.buckets[other] = before.buckets[other]) ∧
      ∀ (index : Nat) (slice : Slice), window.slices[index]? = some slice →
        recorded.slices[index]? = some slice ∨
          recorded.slices[index]? =
            some { slice with counts := slice.counts.record sample.latency sample.success } ∨
          window.covers sample.time slice = false ∨ slice.counts = 0 := by
  intro window recorded before after
  have spaced : window.Spaced := (spaced_start windowMs sliceMs first).recordAll samples
  obtain ⟨counted, among, summed⟩ := exists_tally windowMs sliceMs first samples sample.time
  have added : after = before + sample.counts := by
    have sum := spaced.summary_record sample.latency sample.success (Nat.le_refl sample.time)
    rw [if_pos (spaced.covers_record sample.time sample.latency sample.success)] at sum
    exact sum
  have fewer : counted.length ≤ samples.length := among.length_le
  have before_tallies : before.Tallies counted := by
    rw [show before = tally counted from summed]
    exact tallies_tally counted (by omega)
  have after_tallies : after.Tallies (counted ++ [sample]) := by
    rw [added, show before = tally counted from summed, ← tally_singleton sample, ← tally_append]
    refine tallies_tally _ ?_
    rw [List.length_append, List.length_singleton]
    omega
  refine ⟨?_, ?_, ⟨bucketOf sample.latency, encloses_bucketOf sample.latency, ?_, ?_⟩, ?_⟩
  · rw [after_tallies.total, before_tallies.total, List.length_append, List.length_singleton]
  · rw [after_tallies.errors, before_tallies.errors, List.countP_append, List.countP_singleton]
    cases sample.success <;> rfl
  · rw [after_tallies.buckets, before_tallies.buckets, List.countP_append, List.countP_singleton,
      if_pos (decide_eq_true (encloses_bucketOf sample.latency))]
  · intro other apart
    have outside : ¬ Encloses other sample.latency := fun encloses =>
      apart ((bucketOf_eq_iff other sample.latency).mpr encloses).symm
    apply UInt64.toNat_inj.mp
    rw [after_tallies.buckets, before_tallies.buckets, List.countP_append, List.countP_singleton,
      if_neg (fun enclosed => outside (of_decide_eq_true enclosed)), Nat.add_zero]
  · intro index slice present
    exact spaced.kept_or_spent sample.time sample.latency sample.success present

/-- A ring of one slice, with a clock that goes back and then jumps ahead: the next sample clears
the slice. -/
theorem summary_record_adds_one_single :
    let samples : List Sample := [⟨40, 4, true⟩, ⟨7, 700, false⟩]
    let sample : Sample := ⟨90, 99, false⟩
    let window := (start 5 5 30).recordAll samples
    let recorded := window.record sample.time sample.latency sample.success
    samples.length + 1 < 2 ^ 64 ∧
      (recorded.summary 90).total.toNat = (window.summary 90).total.toNat + 1 ∧
      (recorded.summary 90).errors.toNat = (window.summary 90).errors.toNat + 1 ∧
      ∀ (index : Nat) (slice : Slice), window.slices[index]? = some slice →
        recorded.slices[index]? = some slice ∨
          recorded.slices[index]? = some { slice with counts := slice.counts.record 99 false } ∨
          window.covers 90 slice = false ∨ slice.counts = 0 := by
  intro samples sample window recorded
  have few : samples.length + 1 < 2 ^ 64 := by decide
  obtain ⟨total, errors, -, kept⟩ := summary_record_adds_one 5 5 30 samples sample few
  exact ⟨few, total, errors, kept⟩

end Window

end DnsForwarder.Metrics
