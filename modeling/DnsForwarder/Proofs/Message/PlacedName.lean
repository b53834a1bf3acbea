import DnsForwarder.Message.Encoder
import DnsForwarder.Proofs.Message.Reading

/-!
# Names in their places

`DnsForwarder.Name.Stands` says that labels stand at an offset of a message, up to a zero octet or a
pointer to a place before the start of the name, at which the other labels stand. What stands at an
offset is read there, whatever follows the message (`DnsForwarder.Name.Stands.decoder`).
-/

namespace DnsForwarder

/-- A pointer to a place in a message. -/
def Name.pointer (target : Nat) : Bytes := Bytes.ofUInt16 (UInt16.ofNat (0xC000 + target))

/-- A label with its length in front. -/
def Name.lengthed (label : Bytes) : Bytes := UInt8.ofNat label.length :: label

/-- A label takes its octets and one for its length. -/
theorem wireLength_cons (label : Bytes) (rest : List Bytes) :
    wireLength (label :: rest) = label.length + 1 + wireLength rest := rfl

/-- Even without labels there is the zero octet. -/
theorem wireLength_pos (labels : List Bytes) : 0 < wireLength labels := by
  cases labels with
  | nil => decide
  | cons label rest =>
    rw [wireLength_cons]
    omega

/-- Labels that are put together share one zero octet. -/
theorem wireLength_append (front back : List Bytes) :
    wireLength (front ++ back) = wireLength front - 1 + wireLength back := by
  induction front with
  | nil => exact (Nat.zero_add _).symm
  | cons label rest ih =>
    have := wireLength_pos rest
    rw [List.cons_append, wireLength_cons, wireLength_cons, ih]
    omega

namespace Name

section

variable {octets : Bytes} {offset : Nat} {stop : Option Nat} (origin room : Nat)

/-- A run ends at a zero octet. -/
theorem readRun_zero (free : stop.filter (· ≤ offset) = none) (zero : octets.At offset [0]) :
    readRun octets.toArray origin stop room offset = .ok ⟨[], .zero, offset + 1⟩ := by
  have inside : offset < octets.toArray.size := zero.le
  have present := (List.getElem_eq_iff inside).mpr zero.getElem?
  rw [readRun, free]
  simp only [inside, ↓reduceDIte, List.getElem_toArray, present]
  rfl

/-- A run ends at a pointer, which is told with where it leads. -/
theorem readRun_pointer (free : stop.filter (· ≤ offset) = none) {target : Nat}
    (reach : target < pointerReach) (pointed : octets.At offset (pointer target)) :
    readRun octets.toArray origin stop room offset =
      .ok ⟨[], .pointer offset target, offset + 2⟩ := by
  have two : offset + 1 < octets.toArray.size := pointed.le
  have inside : offset < octets.toArray.size := Nat.lt_of_succ_lt two
  have high := (List.getElem_eq_iff inside).mpr pointed.getElem?
  have low := (List.getElem_eq_iff two).mpr pointed.tail.getElem?
  have small : target < 0x3FFF := reach
  have upper : (UInt8.ofNat ((UInt16.ofNat (0xC000 + target)).toNat / 256)).toNat =
      0xC0 + target / 256 := by
    simp only [UInt8.toNat_ofNat', UInt16.toNat_ofNat']
    omega
  have lower : (UInt8.ofNat (UInt16.ofNat (0xC000 + target)).toNat).toNat = target % 256 := by
    simp only [UInt8.toNat_ofNat', UInt16.toNat_ofNat']
    omega
  have whole : target / 256 * 256 + target % 256 = target := Nat.div_add_mod' target 256
  have notZero : ¬0xC0 + target / 256 = 0 := by omega
  have led : 0xC0 ≤ 0xC0 + target / 256 := Nat.le_add_right ..
  rw [readRun, free]
  simp only [inside, two, ↓reduceDIte, List.getElem_toArray, high, low, upper, lower, notZero, led,
    ↓reduceIte, Nat.add_sub_cancel_left, whole]

/-- A label is read before the run behind it, and takes up room for it. -/
theorem readRun_label (free : stop.filter (· ≤ offset) = none) {label : Bytes}
    (fits : LabelFits label) (first : octets.At offset (lengthed label))
    (short : label.length + 1 ≤ room) :
    readRun octets.toArray origin stop room offset =
      (readRun octets.toArray origin stop (room - (label.length + 1))
        (offset + (lengthed label).length)).map fun run =>
          { run with labels := label :: run.labels } := by
  have inside : offset < octets.toArray.size :=
    Nat.lt_of_succ_le (Nat.le_trans (by simp [lengthed]) first.le)
  have count := (List.getElem_eq_iff inside).mpr first.getElem?
  have rest : octets.At (offset + 1) label := first.tail
  have counted : (UInt8.ofNat label.length).toNat = label.length := by
    rw [UInt8.toNat_ofNat']
    exact Nat.mod_eq_of_lt (Nat.lt_of_le_of_lt fits.2 (by decide))
  have notZero : ¬label.length = 0 := Nat.ne_of_gt fits.1
  have notPointer : ¬0xC0 ≤ label.length := by have := fits.2; omega
  have notReserved : ¬0x40 ≤ label.length := by have := fits.2; omega
  have whole : ¬octets.toArray.size < offset + 1 + label.length := Nat.not_lt.mpr rest.le
  have enough : ¬room < label.length + 1 := Nat.not_lt.mpr short
  have next : offset + 1 + label.length = offset + (lengthed label).length := Nat.add_right_comm ..
  rw [readRun, free]
  simp only [inside, ↓reduceDIte, List.getElem_toArray, count, counted, notZero,
    notPointer, notReserved, whole, enough, ↓reduceIte, rest.extract]
  rw [next]
  cases readRun octets.toArray origin stop (room - (label.length + 1))
    (offset + (lengthed label).length) <;> rfl

end

/-- Labels of a name, or of its end, stand at an offset, and `next` is the offset after them;
`start` is where the name starts. What a pointer leads to ends before the name starts. -/
inductive Stands (octets : Bytes) :
    (start offset : Nat) → (labels : List Bytes) → (next : Nat) → Prop
  | zero {start offset : Nat} (zero : octets.At offset [0]) :
    Stands octets start offset [] (offset + 1)
  | label {start offset next : Nat} {label : Bytes} {rest : List Bytes} (fits : LabelFits label)
      (first : octets.At offset (lengthed label))
      (others : Stands octets start (offset + (lengthed label).length) rest next) :
      Stands octets start offset (label :: rest) next
  | pointer {start offset target stop : Nat} {labels : List Bytes} (reach : target < pointerReach)
      (pointed : octets.At offset (pointer target)) (prior : target < start)
      (there : Stands octets target target labels stop) (apart : stop ≤ start) :
      Stands octets start offset labels (offset + 2)

namespace Stands

variable {octets : Bytes} {start offset next : Nat} {labels : List Bytes}

/-- Labels take up octets, be it only one that ends them. -/
theorem lt (stands : Stands octets start offset labels next) : offset < next := by
  induction stands with
  | zero _ => exact Nat.lt_succ_self _
  | label _ _ _ ih => omega
  | pointer _ _ _ _ _ _ => omega

/-- Labels stand within the octets. -/
theorem le (stands : Stands octets start offset labels next) : next ≤ octets.length := by
  induction stands with
  | zero zero => exact zero.le
  | label _ _ _ ih => exact ih
  | pointer _ pointed _ _ _ _ => exact pointed.le

/-- What is appended to a message moves nothing. -/
theorem append (stands : Stands octets start offset labels next) (back : Bytes) :
    Stands (octets ++ back) start offset labels next := by
  induction stands with
  | zero zero => exact .zero (zero.append back)
  | label fits first _ ih => exact .label fits (first.append back) ih
  | pointer reach pointed prior _ apart ih =>
    exact .pointer reach (pointed.append back) prior ih apart

/-- A name may start later. -/
theorem mono (stands : Stands octets start offset labels next) {other : Nat} (le : start ≤ other) :
    Stands octets other offset labels next := by
  induction stands with
  | zero zero => exact .zero zero
  | label fits first _ ih => exact .label fits first (ih le)
  | pointer reach pointed prior there apart _ =>
    exact .pointer reach pointed (Nat.lt_of_lt_of_le prior le) there (Nat.le_trans apart le)

/-- A run of labels is read up to a zero octet or to a pointer, and the other labels stand where
that leads. -/
theorem readRun (stands : Stands octets start offset labels next) (origin room : Nat)
    {stop : Option Nat} (before : ∀ other ∈ stop, next ≤ other)
    (fits : wireLength labels ≤ room + 1) :
    ∃ run, Name.readRun octets.toArray origin stop room offset = .ok run ∧ run.next = next ∧
      (run.ending = .zero ∧ labels = run.labels ∨
        ∃ place target rest stop, run.ending = .pointer place target ∧ target < start ∧
          labels = run.labels ++ rest ∧ Stands octets target target rest stop ∧ stop ≤ start) := by
  have free {offset next : Nat} (lt : offset < next) (before : ∀ other ∈ stop, next ≤ other) :
      stop.filter (· ≤ offset) = none := by
    refine Option.filter_eq_none_iff.mpr fun other member => ?_
    have := before other member
    simp only [decide_eq_true_eq]
    omega
  induction stands generalizing room with
  | zero zero =>
    exact ⟨_, readRun_zero origin room (free (Nat.lt_succ_self _) before) zero, rfl,
      .inl ⟨rfl, rfl⟩⟩
  | pointer reach pointed prior there apart _ =>
    exact ⟨_, readRun_pointer origin room (free (by omega) before) reach pointed, rfl,
      .inr ⟨_, _, _, _, rfl, prior, rfl, there, apart⟩⟩
  | @label start offset next label rest labelFits first others ih =>
    rw [wireLength_cons] at fits
    have := wireLength_pos rest
    have := others.lt
    obtain ⟨run, read, same, ends⟩ := ih (room - (label.length + 1)) before (by omega)
    have step := readRun_label origin room (free (by omega) before) labelFits first (by omega)
    rw [read] at step
    refine ⟨_, step, same, ?_⟩
    obtain ⟨zero, all⟩ | ⟨place, target, rest, stop, pointer, prior, parts, there⟩ := ends
    · exact .inl ⟨zero, by rw [all]⟩
    · exact .inr ⟨place, target, rest, stop, pointer, prior, by rw [parts, List.cons_append], there⟩

/-- What stands at an offset is read there. -/
theorem readLabels (stands : Stands octets start start labels next) (room : Nat) {stop : Option Nat}
    (before : ∀ other ∈ stop, next ≤ other) (fits : wireLength labels ≤ room + 1) :
    Name.readLabels octets.toArray stop room start = .ok (labels, next) := by
  induction start using Nat.strongRecOn generalizing labels next room stop with
  | _ start ih =>
    obtain ⟨run, read, same, ends⟩ := stands.readRun start room before fits
    rw [Name.readLabels, read]
    obtain ⟨zero, rfl⟩ | ⟨place, target, rest, stop, pointer, prior, rfl, there, apart⟩ := ends
    · simp only [zero, same]
    · rw [wireLength_append] at fits
      have before : ∀ other ∈ some start, stop ≤ other := by
        rintro _ ⟨⟩
        exact apart
      have others := ih target prior there (room - run.size) before (by rw [Run.size]; omega)
      simp only [pointer, prior, ↓reduceIte, others, same]

/-- A name that stands at an offset is read there. -/
theorem decoder {name : Name} (stands : Stands octets offset offset name.labels next) :
    Name.decoder octets.toArray offset = .ok (name, next) := by
  have free : ∀ other ∈ (none : Option Nat), next ≤ other := nofun
  have read := stands.readLabels 254 free name.wire_fits
  rw [Name.decoder, read]
  simp only [ofLabels?_labels]

end Stands

end Name

end DnsForwarder
