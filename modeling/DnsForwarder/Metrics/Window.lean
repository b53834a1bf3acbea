import DnsForwarder.Metrics.Histogram

/-!
# The sliding window

Samples of the recent past are kept in a ring of slices. A sample goes to the current slice while
that is younger than the length of a slice; else the next slice of the ring is cleared, becomes
current and takes it. The summary adds up the slices that started within the window and skips the
others, which stay until the ring comes round to them.

Times are readings of a clock in milliseconds. The clock may go backwards: a slice that starts after
the reading counts as new.
-/

namespace DnsForwarder.Metrics

/-- A part of the window: when it started and what was recorded since. -/
structure Slice where
  start : Nat
  counts : Counts

/-- A slice that was never used. -/
def Slice.unused : Slice := ⟨0, .zero⟩

/-- A ring of slices, one of which is current. -/
structure Window where
  /-- How old a slice may be, in milliseconds, and still be summed. -/
  windowMs : Nat
  /-- How old a slice may be, in milliseconds, and still take samples. -/
  sliceMs : Nat
  slices : Array Slice
  current : Nat
  current_lt : current < slices.size

namespace Window

/-- The ring for a window and a slice length in milliseconds. A slice lasts at least a millisecond
and the window at least a slice; the ring has as many slices as cover the window. -/
def start (windowMs sliceMs now : Nat) : Window :=
  let slice := max sliceMs 1
  let window := max windowMs slice
  let size := (window + slice - 1) / slice
  { windowMs := window
    sliceMs := slice
    slices := #[⟨now, .zero⟩] ++ Array.replicate (size - 1) .unused
    current := 0
    current_lt := by
      rw [Array.size_append]
      exact Nat.lt_of_lt_of_le Nat.zero_lt_one (Nat.le_add_right _ _) }

/-- Whether a slice is summed at a reading. -/
def covers (window : Window) (now : Nat) (slice : Slice) : Bool :=
  now - slice.start < window.windowMs

/-- The current slice. -/
def currentSlice (window : Window) : Slice :=
  have := window.current_lt
  window.slices[window.current]

/-- Puts a sample into the current slice if that is young enough, else into the next one, which
is cleared first. -/
def record (window : Window) (now latency : Nat) (success : Bool) : Window :=
  let i := window.current
  if now - window.currentSlice.start < window.sliceMs then
    { window with
      slices := window.slices.modify i fun slice =>
        { slice with counts := slice.counts.record latency success }
      current_lt := by simpa using window.current_lt }
  else
    let next := (i + 1) % window.slices.size
    { window with
      slices := window.slices.modify next fun _ => ⟨now, Counts.zero.record latency success⟩
      current := next
      current_lt := by
        simpa using Nat.mod_lt _ (Nat.lt_of_le_of_lt (Nat.zero_le _) window.current_lt) }

/-- The sum of the slices that are covered at a reading. -/
def summary (window : Window) (now : Nat) : Counts :=
  window.slices.foldl
    (fun sum slice => if window.covers now slice then sum + slice.counts else sum) .zero

end Window

end DnsForwarder.Metrics
