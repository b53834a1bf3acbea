import DnsForwarder.Proofs.Message.PlacedName

/-!
# Names that were written before

What is remembered of the names in a message stands where it is said to stand. So a pointer leads to
the labels that it replaces, and a name is written so that it can be read back
(`DnsForwarder.Name.laid_piece`, `DnsForwarder.Name.laid_plainPiece`).
-/

namespace DnsForwarder

namespace Written

/-- The end of a name that is remembered stands where it is said to, before an offset, and a pointer
reaches it. -/
def Placed (octets : Bytes) (before : Nat) (entry : Nat × List Bytes) : Prop :=
  entry.1 < pointerReach ∧ ∃ next ≤ before, Name.Stands octets entry.1 entry.1 entry.2 next

/-- All that is remembered stands where it is said to stand. -/
def Known (octets : Bytes) (written : Written) : Prop :=
  ∀ entry ∈ written, Placed octets octets.length entry

/-- What stands somewhere still does when more octets follow. -/
theorem Placed.append {octets : Bytes} {before : Nat} {entry : Nat × List Bytes}
    (placed : Placed octets before entry) (back : Bytes) :
    Placed (octets ++ back) before entry := by
  obtain ⟨reach, next, le, stands⟩ := placed
  exact ⟨reach, next, le, stands.append back⟩

/-- What ends before an offset ends before all the octets do. -/
theorem Placed.whole {octets : Bytes} {before : Nat} {entry : Nat × List Bytes}
    (placed : Placed octets before entry) : Placed octets octets.length entry := by
  obtain ⟨reach, next, -, stands⟩ := placed
  exact ⟨reach, next, stands.le, stands⟩

/-- Where nothing is remembered, there is nothing that has to stand anywhere. -/
theorem known_empty (octets : Bytes) : Known octets #[] :=
  fun _ member => nomatch Array.not_mem_empty _ member

/-- What is remembered still stands when more octets follow. -/
theorem Known.append {octets : Bytes} {written : Written} (known : Known octets written)
    (back : Bytes) :
    Known (octets ++ back) written :=
  fun entry member => ((known entry member).append back).whole

/-- An offset that is found was remembered with the labels that it was looked up by. -/
theorem mem_of_offset? {written : Written} {labels : List Bytes} {target : Nat}
    (found : written.offset? labels = some target) : (target, labels) ∈ written := by
  obtain ⟨entry, first, rfl⟩ := Option.map_eq_some_iff.mp found
  obtain rfl : entry.2 = labels := by simpa using Array.find?_some first
  exact Array.mem_of_find?_eq_some first

/-- What is remembered now was remembered before, or is new. -/
theorem mem_of_remembered {written : Written} {remember : Bool} {entry new : Nat × List Bytes}
    (member : entry ∈ if remember then written.push new else written) :
    entry ∈ written ∨ remember = true ∧ entry = new := by
  cases remember with
  | false => exact .inl member
  | true => exact (Array.mem_push.mp member).imp_right fun same => ⟨rfl, same⟩

end Written

namespace Name

open Written

/-- Labels are written behind some octets as part of a name that starts at an offset: they stand
there, and what is remembered in addition stands where it is said to. -/
structure Laid (front : Bytes) (start : Nat) (written : Written) (labels : List Bytes)
    (out : Bytes × Written) : Prop where
  stands : Stands (front ++ out.1) start front.length labels (front ++ out.1).length
  placed : ∀ entry ∈ out.2, entry ∈ written ∨ Placed (front ++ out.1) (front ++ out.1).length entry

section

variable {front : Bytes} {start : Nat} {written : Written}

/-- The zero octet ends the labels of a name. -/
theorem laid_zero : Laid front start written [] ([0], written) where
  stands := by
    have zero : Stands (front ++ [0]) start front.length [] (front.length + 1) :=
      .zero ⟨front, [], (List.append_nil _).symm, rfl⟩
    rwa [List.length_append]
  placed := fun _ member => .inl member

/-- A pointer stands for the labels that stand where it leads. -/
theorem laid_pointer {labels : List Bytes} {target : Nat}
    (known : Placed front start (target, labels)) :
    Laid front start written labels (pointer target, written) where
  stands := by
    obtain ⟨reach, next, le, stands⟩ := known
    have prior : target < start := Nat.lt_of_lt_of_le stands.lt le
    have pointed := Stands.pointer reach ⟨front, [], (List.append_nil _).symm, rfl⟩ prior
      (stands.append _) le
    rwa [List.length_append]
  placed := fun _ member => .inl member

/-- A label in front of others, which is remembered or not. -/
theorem Laid.label {label : Bytes} {rest : List Bytes} {out : Bytes × Written} (remember : Bool)
    (others : Laid (front ++ lengthed label) start
      (if remember then written.push (front.length, label :: rest) else written) rest out)
    (fits : LabelFits label) (later : start ≤ front.length)
    (reach : remember = true → front.length < pointerReach) :
    Laid front start written (label :: rest) (lengthed label ++ out.1, out.2) := by
  have stands : Stands (front ++ (lengthed label ++ out.1)) start front.length (label :: rest)
      (front ++ (lengthed label ++ out.1)).length := by
    have stands := others.stands
    rw [List.length_append] at stands
    have whole := stands.label fits (Bytes.at_length front (lengthed label) out.1)
    rwa [List.append_assoc] at whole
  refine ⟨stands, fun entry member => ?_⟩
  obtain earlier | placed := others.placed entry member
  · obtain before | ⟨remembered, rfl⟩ := mem_of_remembered earlier
    · exact .inl before
    · exact .inr ⟨reach remembered, _, Nat.le_refl _, stands.mono later⟩
  · rw [List.append_assoc] at placed
    exact .inr placed

/-- Only ends with as many labels or fewer can be taken for an end that is to be written. -/
theorem laid_compressed (remember : Bool) {labels : List Bytes}
    (fit : ∀ label ∈ labels, LabelFits label) (later : start ≤ front.length)
    (reach : remember = true → front.length + wireLength labels - 1 < pointerReach)
    (known : ∀ entry ∈ written, entry.2.length ≤ labels.length → Placed front start entry) :
    Laid front start written labels (compressed remember labels written front.length) := by
  induction labels generalizing front written with
  | nil => exact laid_zero
  | cons label rest ih =>
    rw [compressed]
    obtain ⟨first, others⟩ := List.forall_mem_cons.mp fit
    have next : (front ++ lengthed label).length = front.length + label.length + 1 :=
      List.length_append
    have positive := wireLength_pos rest
    rw [wireLength_cons] at reach
    cases found : written.offset? (label :: rest) with
    | some target => exact laid_pointer (known _ (mem_of_offset? found) (Nat.le_refl _))
    | none =>
      refine Laid.label remember ?_ first later fun remembered => ?_
      · rw [← next]
        refine ih others (by omega) (fun remembered => ?_) fun entry member short => ?_
        · have := reach remembered
          omega
        · obtain before | ⟨-, rfl⟩ := mem_of_remembered member
          · exact (known entry before (Nat.le_succ_of_le short)).append _
          · exact absurd short (Nat.not_succ_le_self _)
      · have := reach remembered
        omega

/-- Labels that are written in full stand where they are written, and so do their ends. -/
theorem laid_uncompressed (remember : Bool) {labels : List Bytes}
    (fit : ∀ label ∈ labels, LabelFits label) (later : start ≤ front.length)
    (reach : remember = true → front.length + wireLength labels - 1 < pointerReach) :
    Laid front start written labels (uncompressed remember labels written front.length) := by
  induction labels generalizing front written with
  | nil => exact laid_zero
  | cons label rest ih =>
    rw [uncompressed]
    obtain ⟨first, others⟩ := List.forall_mem_cons.mp fit
    have next : (front ++ lengthed label).length = front.length + label.length + 1 :=
      List.length_append
    have positive := wireLength_pos rest
    rw [wireLength_cons] at reach
    refine Laid.label (remember && !(written.offset? (label :: rest)).isSome) ?_ first later
      fun remembered => ?_
    · rw [← next]
      refine ih others (by omega) fun remembered => ?_
      have := reach remembered
      omega
    · have := reach (Bool.and_eq_true_iff.mp remembered).1
      omega

end

/-- A name that may be compressed stands where it is written. -/
theorem laid_piece (name : Name) {front : Bytes} {written : Written} (known : Known front written) :
    Laid front front.length written name.labels (name.piece written front.length) :=
  laid_compressed _ name.labels_fit (Nat.le_refl _) of_decide_eq_true
    fun entry member _ => known entry member

/-- A name that is written in full stands where it is written, in lowercase. -/
theorem laid_plainPiece (name : Name) (front : Bytes) (written : Written) :
    Laid front front.length written name.lowercase.labels (name.plainPiece written front.length) :=
  laid_uncompressed _ name.lowercase.labels_fit (Nat.le_refl _) of_decide_eq_true

end Name

end DnsForwarder
