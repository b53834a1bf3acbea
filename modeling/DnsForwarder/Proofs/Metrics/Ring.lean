import DnsForwarder.Metrics.Window
import DnsForwarder.Proofs.Metrics.Counts
import Mathlib.Data.Nat.ModEq

/-!
# The ring of slices

The ring turns only when a sample comes, and then by one slice, however late the sample is. Going
back from the current slice, each slice that was used still started at least the length of a slice
before the one after it (`DnsForwarder.Metrics.Window.Spaced`), because a turn needs that much time
to have passed. The slice that a turn clears is the oldest, so it started a whole window ago and was
not summed any more: recording a sample adds that sample to the summary and takes nothing out of it
(`DnsForwarder.Metrics.Window.summary_record`). None of this asks anything of the clock.
-/

namespace DnsForwarder.Metrics

/-- Changing one element of a list changes its sum by what that element gains. -/
theorem sum_map_modify {α M : Type*} [AddCommMonoid M] (weight : α → M) (f : α → α) (gain : M) :
    ∀ (list : List α) (index : Nat) (element : α), list[index]? = some element →
      weight (f element) = weight element + gain →
      ((list.modify index f).map weight).sum = (list.map weight).sum + gain
  | [], _, _, present, _ => by simp at present
  | head :: tail, 0, element, present, gained => by
    simp only [List.getElem?_cons_zero, Option.some.injEq] at present
    subst present
    simp only [List.modify_zero_cons, List.map_cons, List.sum_cons, gained, add_right_comm]
  | head :: tail, index + 1, element, present, gained => by
    have rest := sum_map_modify weight f gain tail index element present gained
    simp only [List.modify_succ_cons, List.map_cons, List.sum_cons, rest, add_assoc]

namespace Window

/-- The slice that the next turn clears. -/
def next (window : Window) : Nat := (window.current + 1) % window.slices.size

/-- What a slice adds to the summary at a reading. -/
def share (window : Window) (now : Nat) (slice : Slice) : Counts :=
  if window.covers now slice then slice.counts else 0

/-- There is a slice at least. -/
theorem size_pos (window : Window) : 0 < window.slices.size :=
  Nat.lt_of_le_of_lt (Nat.zero_le _) window.current_lt

/-- The current slice is where the window says it is. -/
theorem slices_current (window : Window) :
    window.slices[window.current]? = some window.currentSlice :=
  Array.getElem?_eq_getElem window.current_lt

/-- The slice at the current place is the current slice. -/
theorem currentSlice_eq {window : Window} {slice : Slice}
    (present : window.slices[window.current]? = some slice) : window.currentSlice = slice :=
  Option.some.inj (window.slices_current.symm.trans present)

/-- A window starts with an empty slice. -/
theorem currentSlice_start (windowMs sliceMs first : Nat) :
    (start windowMs sliceMs first).currentSlice = ⟨first, .zero⟩ :=
  currentSlice_eq ((Array.getElem?_append_left Nat.zero_lt_one).trans rfl)

/-- A summary is the sum of what each slice adds to it at that reading. -/
theorem summary_eq_sum (window : Window) (now : Nat) :
    window.summary now = (window.slices.toList.map (window.share now)).sum := by
  have step (slices : List Slice) (sum : Counts) :
      slices.foldl (fun sum slice => if window.covers now slice then sum + slice.counts
        else sum) sum =
        sum + (slices.map (window.share now)).sum := by
    induction slices generalizing sum with
    | nil => exact (add_zero sum).symm
    | cons slice rest ih =>
      rw [List.foldl_cons, ih, List.map_cons, List.sum_cons, ← add_assoc, share]
      split
      · rfl
      · rw [add_zero]
  rw [summary, ← Array.foldl_toList, step]
  exact zero_add _

/-- Recording goes to the current slice while that is young, and otherwise turns the ring. -/
theorem record_cases (window : Window) (now latency : Nat) (success : Bool) :
    let after := window.record now latency success
    (now - window.currentSlice.start < window.sliceMs ∧ after.current = window.current ∧
      after.slices = window.slices.modify window.current fun slice =>
        { slice with counts := slice.counts.record latency success }) ∨
    (window.sliceMs ≤ now - window.currentSlice.start ∧ after.current = window.next ∧
      after.slices = window.slices.modify window.next fun _ =>
        ⟨now, Counts.zero.record latency success⟩) := by
  by_cases young : now - window.currentSlice.start < window.sliceMs
  · left
    have recorded : window.record now latency success = _ := if_pos young
    exact ⟨young, by rw [recorded], by rw [recorded]⟩
  · right
    have turned : window.record now latency success = _ := if_neg young
    exact ⟨Nat.not_lt.mp young, by rw [turned, next], by rw [turned, next]⟩

/-- Recording a sample does not change the length of the window. -/
@[simp] theorem record_windowMs (window : Window) (now latency : Nat) (success : Bool) :
    (window.record now latency success).windowMs = window.windowMs := by
  simp only [record]
  split <;> rfl

/-- Recording a sample does not change the length of the slices. -/
@[simp] theorem record_sliceMs (window : Window) (now latency : Nat) (success : Bool) :
    (window.record now latency success).sliceMs = window.sliceMs := by
  simp only [record]
  split <;> rfl

/-- Recording a sample does not change the number of slices. -/
@[simp] theorem record_size (window : Window) (now latency : Nat) (success : Bool) :
    (window.record now latency success).slices.size = window.slices.size := by
  obtain ⟨-, -, slices⟩ | ⟨-, -, slices⟩ := window.record_cases now latency success
  · rw [slices, Array.size_modify]
  · rw [slices, Array.size_modify]

/-- After recording, the current slice is the one before with the sample if that is young, and
otherwise a new one with the sample alone. -/
theorem currentSlice_record (window : Window) (now latency : Nat) (success : Bool) :
    (window.record now latency success).currentSlice =
      if now - window.currentSlice.start < window.sliceMs then
        { window.currentSlice with counts := window.currentSlice.counts.record latency success }
      else ⟨now, Counts.zero.record latency success⟩ := by
  apply currentSlice_eq
  rcases window.record_cases now latency success with ⟨young, current, slices⟩ |
    ⟨old, current, slices⟩
  · rw [slices, current, Array.getElem?_modify, if_pos rfl, slices_current, if_pos young]
    rfl
  · have inside : window.next < window.slices.size := Nat.mod_lt _ window.size_pos
    rw [slices, current, Array.getElem?_modify, if_pos rfl, Array.getElem?_eq_getElem inside,
      if_neg (Nat.not_lt.mpr old)]
    rfl

/-- After a sample the current slice is the one of before, unless that was over, and then one that
starts with the sample. -/
theorem record_start (window : Window) (now latency : Nat) (success : Bool) :
    (window.record now latency success).currentSlice.start =
      if now - window.currentSlice.start < window.sliceMs then window.currentSlice.start
        else now := by
  rw [currentSlice_record]
  split <;> rfl

/-- The slices cover the window, and going back from the current one, each that was used started at
least the length of a slice before the one after it. -/
structure Spaced (window : Window) : Prop where
  slice_pos : 0 < window.sliceMs
  slice_le : window.sliceMs ≤ window.windowMs
  size_covers : window.windowMs ≤ window.slices.size * window.sliceMs
  used_or_spaced : ∀ index back slice, window.slices[index]? = some slice →
    back < window.slices.size → (index + back) % window.slices.size = window.current →
    slice.counts = 0 ∨ slice.start + back * window.sliceMs ≤ window.currentSlice.start

/-- As many slices as it takes to cover the window are enough. -/
theorem le_div_ceil_mul (span slice : Nat) (positive : 0 < slice) :
    span ≤ (span + slice - 1) / slice * slice := by
  have remainder := Nat.div_add_mod (span + slice - 1) slice
  have small := Nat.mod_lt (span + slice - 1) positive
  rw [Nat.mul_comm]
  omega

/-- The slices of a window that was just set up are far enough apart, as none of them was used. -/
theorem spaced_start (windowMs sliceMs now : Nat) : (start windowMs sliceMs now).Spaced where
  slice_pos := Nat.lt_of_lt_of_le Nat.zero_lt_one (Nat.le_max_right _ _)
  slice_le := Nat.le_max_right _ _
  size_covers := by
    have positive : 0 < max sliceMs 1 := Nat.lt_of_lt_of_le Nat.zero_lt_one (Nat.le_max_right _ _)
    refine le_trans (le_div_ceil_mul _ _ positive) (Nat.mul_le_mul_right _ ?_)
    simp only [start, Array.size_append, Array.size_replicate, List.size_toArray, List.length_cons,
      List.length_nil]
    omega
  used_or_spaced := by
    intro index back slice present behind lands
    cases index with
    | zero =>
      right
      have still : back = 0 := by
        rw [Nat.zero_add, Nat.mod_eq_of_lt behind] at lands
        exact lands
      rw [still, currentSlice_eq present, Nat.zero_mul, Nat.add_zero]
    | succ index =>
      left
      have unused : slice = .unused := by
        simp [start, Array.getElem?_append, Array.getElem?_replicate] at present
        exact present.2.symm
      rw [unused]
      rfl

/-- Going back all but one of the slices from the current one leads to the slice that comes next. -/
theorem next_add_size (window : Window) :
    (window.next + (window.slices.size - 1)) % window.slices.size = window.current := by
  have positive := window.size_pos
  have whole : window.current + 1 + (window.slices.size - 1) =
      window.current + window.slices.size := by
    omega
  rw [next, Nat.mod_add_mod, whole, Nat.add_mod_right, Nat.mod_eq_of_lt window.current_lt]

/-- A slice that is cleared by a turn is not summed at that reading or any later one. -/
theorem Spaced.share_next {window : Window} (spaced : window.Spaced) {slice : Slice}
    (present : window.slices[window.next]? = some slice) {turned now : Nat}
    (old : window.sliceMs ≤ turned - window.currentSlice.start) (later : turned ≤ now) :
    window.share now slice = 0 := by
  have positive := window.size_pos
  obtain unused | far := spaced.used_or_spaced window.next (window.slices.size - 1) slice present
    (by omega) window.next_add_size
  · rw [share, unused, ite_self]
  · have sliceMs_pos := spaced.slice_pos
    have lap : slice.start + window.slices.size * window.sliceMs ≤ now := by
      have split : window.slices.size * window.sliceMs =
          (window.slices.size - 1) * window.sliceMs + window.sliceMs := by
        rw [← Nat.succ_mul]
        congr 1
        omega
      omega
    have covers := spaced.size_covers
    have expired : ¬ now - slice.start < window.windowMs := by omega
    simp only [share, Window.covers, expired, decide_false, Bool.false_eq_true, if_false]

/-- Only going back no slices at all leads from the current slice to itself. -/
theorem back_eq_zero {size index back : Nat} (inside : index < size) (behind : back < size)
    (lands : (index + back) % size = index) : back = 0 := by
  have same : index + back ≡ index + 0 [MOD size] := by
    rw [Nat.ModEq, Nat.add_zero, lands, Nat.mod_eq_of_lt inside]
  have none_back : back % size = 0 % size := Nat.ModEq.add_left_cancel' index same
  rwa [Nat.mod_eq_of_lt behind, Nat.zero_mod] at none_back

/-- A slice that is reached from the one after another is reached from that one with a step less. -/
theorem back_pred {size index back place : Nat} (inside : place < size)
    (lands : (index + (back + 1)) % size = (place + 1) % size) : (index + back) % size = place := by
  have aligned : index + back ≡ place [MOD size] := Nat.ModEq.add_right_cancel' 1 lands
  rwa [Nat.ModEq, Nat.mod_eq_of_lt inside] at aligned

/-- A slice of a ring in which one was changed is that one, or was there before. -/
theorem modify_cases {slices : Array Slice} {index place : Nat} {f : Slice → Slice} {slice : Slice}
    (present : (slices.modify place f)[index]? = some slice) :
    (place = index ∧ ∃ old, slices[index]? = some old ∧ f old = slice) ∨
      (place ≠ index ∧ slices[index]? = some slice) := by
  rw [Array.getElem?_modify] at present
  by_cases same : place = index
  · rw [if_pos same] at present
    exact .inl ⟨same, Option.map_eq_some_iff.mp present⟩
  · rw [if_neg same] at present
    exact .inr ⟨same, present⟩

/-- Adding to the current slice leaves the slices spaced. -/
theorem Spaced.fill {window : Window} (spaced : window.Spaced) {f : Slice → Slice}
    (kept : (f window.currentSlice).start = window.currentSlice.start) {index back : Nat}
    {slice : Slice} (present : (window.slices.modify window.current f)[index]? = some slice)
    (behind : back < window.slices.size)
    (lands : (index + back) % window.slices.size = window.current) :
    slice.counts = 0 ∨ slice.start + back * window.sliceMs ≤ window.currentSlice.start := by
  obtain ⟨same, old, there, rfl⟩ | ⟨-, there⟩ := modify_cases present
  · right
    subst same
    rw [← window.currentSlice_eq there, kept, back_eq_zero window.current_lt behind lands,
      Nat.zero_mul, Nat.add_zero]
  · exact spaced.used_or_spaced index back slice there behind lands

/-- A turn leaves the slices spaced: it puts the length of a slice between the current slice and the
next. -/
theorem Spaced.turn {window : Window} (spaced : window.Spaced) {now : Nat} {counts : Counts}
    (old : window.sliceMs ≤ now - window.currentSlice.start) {index back : Nat} {slice : Slice}
    (present : (window.slices.modify window.next fun _ => ⟨now, counts⟩)[index]? = some slice)
    (behind : back < window.slices.size)
    (lands : (index + back) % window.slices.size = window.next) :
    slice.counts = 0 ∨ slice.start + back * window.sliceMs ≤ now := by
  obtain ⟨same, _, there, rfl⟩ | ⟨apart, there⟩ := modify_cases present
  · right
    have inside : window.next < window.slices.size := Nat.mod_lt _ window.size_pos
    rw [← same] at lands
    rw [back_eq_zero inside behind lands, Nat.zero_mul, Nat.add_zero]
  · cases back with
    | zero =>
      rw [Nat.add_zero, Nat.mod_eq_of_lt (Array.getElem?_eq_some_iff.mp there).1] at lands
      exact absurd lands.symm apart
    | succ back =>
      have before := back_pred window.current_lt lands
      have sliceMs_pos := spaced.slice_pos
      obtain unused | far := spaced.used_or_spaced index back slice there (by omega) before
      · exact .inl unused
      · right
        rw [Nat.succ_mul]
        omega

/-- The slices stay spaced whatever the clock reads. -/
theorem Spaced.record {window : Window} (spaced : window.Spaced) (now latency : Nat)
    (success : Bool) :
    (window.record now latency success).Spaced where
  slice_pos := by rw [record_sliceMs]; exact spaced.slice_pos
  slice_le := by rw [record_sliceMs, record_windowMs]; exact spaced.slice_le
  size_covers := by rw [record_sliceMs, record_windowMs, record_size]; exact spaced.size_covers
  used_or_spaced := by
    intro index back slice present behind lands
    rw [record_size] at behind lands
    rw [record_sliceMs, record_start]
    obtain ⟨young, current, slices⟩ | ⟨old, current, slices⟩ :=
      window.record_cases now latency success
    · rw [slices] at present
      rw [current] at lands
      rw [if_pos young]
      exact spaced.fill rfl present behind lands
    · rw [slices] at present
      rw [current] at lands
      rw [if_neg (Nat.not_lt.mpr old)]
      exact spaced.turn old present behind lands

/-- How much of a slice is summed at a reading does not depend on what is recorded. -/
theorem record_share (window : Window) (now latency : Nat) (success : Bool) (reading : Nat) :
    (window.record now latency success).share reading = window.share reading := by
  funext slice
  rw [share, share, covers, covers, record_windowMs]

/-- Recording adds the sample to the summary, as long as the slice that took it is summed, and takes
nothing out of it. -/
theorem Spaced.summary_record {window : Window} (spaced : window.Spaced)
    (latency : Nat) (success : Bool) {recorded now : Nat} (later : recorded ≤ now) :
    (window.record recorded latency success).summary now = window.summary now +
      if now - (window.record recorded latency success).currentSlice.start < window.windowMs
        then Counts.zero.record latency success else 0 := by
  have start := window.record_start recorded latency success
  rw [summary_eq_sum, summary_eq_sum, record_share]
  obtain ⟨young, -, slices⟩ | ⟨old, -, slices⟩ := window.record_cases recorded latency success
  · rw [if_pos young] at start
    rw [start, slices, Array.toList_modify]
    refine sum_map_modify _ _ _ _ _ window.currentSlice ?_ ?_
    · rw [Array.getElem?_toList, slices_current]
    · simp only [share, covers, decide_eq_true_eq]
      split
      · exact Counts.record_eq_add _ latency success
      · exact (add_zero _).symm
  · rw [if_neg (Nat.not_lt.mpr old)] at start
    have present := Array.getElem?_eq_getElem (Nat.mod_lt (window.current + 1) window.size_pos)
    rw [start, slices, Array.toList_modify]
    refine sum_map_modify _ _ _ _ _ _ (Array.getElem?_toList.trans present) ?_
    rw [spaced.share_next present old later, zero_add]
    simp only [share, covers, decide_eq_true_eq]

end Window
end DnsForwarder.Metrics
