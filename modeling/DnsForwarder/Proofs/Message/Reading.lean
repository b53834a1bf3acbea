import DnsForwarder.Message.Decoder
import Mathlib.Data.List.Basic

/-!
# Reading what stands at a place

`DnsForwarder.Decoder.Reads` says of a decoder that it reads certain octets as a value, wherever
they stand and whatever stands around them; `DnsForwarder.Decoder.Gives` says what is true of every
value that it can give. Both go through `do` blocks step by step.
-/

namespace DnsForwarder

namespace Bytes

/-- A part of some octets stands at an offset. -/
def At (octets : Bytes) (offset : Nat) (part : Bytes) : Prop :=
  ∃ front back, octets = front ++ part ++ back ∧ front.length = offset

variable {octets : Bytes} {offset : Nat}

/-- What is put behind some octets stands at their length. -/
theorem at_length (front part back : Bytes) : At (front ++ part ++ back) front.length part :=
  ⟨front, back, rfl, rfl⟩

/-- The first of two parts stands where both do. -/
theorem At.left {first second : Bytes} (stands : At octets offset (first ++ second)) :
    At octets offset first := by
  obtain ⟨front, back, rfl, length⟩ := stands
  exact ⟨front, second ++ back, by simp only [List.append_assoc], length⟩

/-- The second of two parts stands behind the first. -/
theorem At.right {first second : Bytes} (stands : At octets offset (first ++ second)) :
    At octets (offset + first.length) second := by
  obtain ⟨front, back, rfl, rfl⟩ := stands
  exact ⟨front ++ first, back, by simp only [List.append_assoc], List.length_append⟩

/-- All but the first octet stand one place further on. -/
theorem At.tail {head : UInt8} {tail : Bytes} (stands : At octets offset (head :: tail)) :
    At octets (offset + 1) tail :=
  At.right (show At octets offset ([head] ++ tail) from stands)

/-- A part that stands somewhere ends within the octets. -/
theorem At.le {part : Bytes} (stands : At octets offset part) :
    offset + part.length ≤ octets.length := by
  obtain ⟨front, back, rfl, rfl⟩ := stands
  simp only [List.length_append]
  omega

/-- What is appended at the end moves nothing. -/
theorem At.append {part : Bytes} (stands : At octets offset part) (back : Bytes) :
    At (octets ++ back) offset part := by
  obtain ⟨front, rest, rfl, length⟩ := stands
  exact ⟨front, rest ++ back, by simp only [List.append_assoc], length⟩

/-- The first octet of a part is the octet at its offset. -/
theorem At.getElem? {head : UInt8} {tail : Bytes} (stands : At octets offset (head :: tail)) :
    octets[offset]? = some head := by
  obtain ⟨front, back, rfl, rfl⟩ := stands
  rw [List.append_assoc, List.getElem?_append_right (Nat.le_refl _), Nat.sub_self]
  rfl

/-- What is cut out where a part stands is that part. -/
theorem At.extract {part : Bytes} (stands : At octets offset part) :
    (octets.toArray.extract offset (offset + part.length)).toList = part := by
  obtain ⟨front, back, rfl, rfl⟩ := stands
  rw [List.extract_toArray, List.extract_eq_take_drop, List.append_assoc, List.drop_left,
    Nat.add_sub_cancel_left, List.take_left]

end Bytes

namespace Decoder

variable {α β : Type}

/-- A `do` block goes on with what its first decoder reads, behind it. -/
theorem bind_of_ok {first : Decoder α} {octets : Array UInt8} {offset next : Nat} {value : α}
    (read : first octets offset = .ok (value, next)) (rest : α → Decoder β) :
    (first >>= rest) octets offset = rest value octets next := by
  simp only [bind, read]

/-- A `do` block that gives something was given something by its first decoder. -/
theorem exists_of_bind {first : Decoder α} {rest : α → Decoder β} {octets : Array UInt8}
    {offset stop : Nat} {result : β} (read : (first >>= rest) octets offset = .ok (result, stop)) :
    ∃ value next, first octets offset = .ok (value, next) ∧
      rest value octets next = .ok (result, stop) := by
  cases begun : first octets offset with
  | error fault =>
    simp only [bind, begun] at read
    contradiction
  | ok pair =>
    rw [bind_of_ok begun] at read
    exact ⟨pair.1, pair.2, rfl, read⟩

/-- The decoder reads the octets as the value, wherever they stand. -/
def Reads (decoder : Decoder α) (part : Bytes) (value : α) : Prop :=
  ∀ (octets : Bytes) (offset : Nat), octets.At offset part →
    decoder octets.toArray offset = .ok (value, offset + part.length)

/-- Nothing has to be read for a value that is known. -/
theorem reads_pure (value : α) : Reads (pure value) [] value := fun _ _ _ => rfl

/-- Two decoders one after the other read two parts one after the other. -/
theorem Reads.bind {first : Decoder α} {front back : Bytes} {value : α} {rest : α → Decoder β}
    {result : β} (begins : Reads first front value) (ends : Reads (rest value) back result) :
    Reads (first >>= rest) (front ++ back) result := by
  intro octets offset stands
  rw [bind_of_ok (begins octets offset stands.left), ends octets _ stands.right, List.length_append,
    Nat.add_assoc]

/-- The value may be made into another when all is read. -/
theorem Reads.give {decoder : Decoder α} {part : Bytes} {value : α} {rest : α → Decoder β}
    {result : β} (reads : Reads decoder part value) (gives : rest value = pure result) :
    Reads (decoder >>= rest) part result := by
  intro octets offset stands
  rw [bind_of_ok (reads octets offset stands), gives]
  rfl

/-- One octet is read as it is. -/
theorem reads_octet (octet : UInt8) : Reads Decoder.octet [octet] octet := by
  intro octets offset stands
  have inside : offset < octets.toArray.size := stands.le
  have present := List.getElem_eq_iff inside |>.mpr stands.getElem?
  rw [Decoder.octet, dif_pos inside, List.getElem_toArray, present]
  rfl

/-- Two octets are read as the number that was written with them. -/
theorem reads_word16 (word : UInt16) : Reads word16 (Bytes.ofUInt16 word) word := by
  have read : Reads word16 (Bytes.ofUInt16 word) (Bytes.toUInt16 _ _) :=
    (reads_octet _).bind ((reads_octet _).bind (reads_pure _))
  rwa [Bytes.toUInt16_ofUInt16] at read

/-- Four octets are read as the number that was written with them. -/
theorem reads_word32 (word : UInt32) : Reads word32 (Bytes.ofUInt32 word) word := by
  have read : Reads word32 (Bytes.ofUInt32 word) (Bytes.toUInt32 _ _ _ _) :=
    (reads_octet _).bind ((reads_octet _).bind ((reads_octet _).bind
      ((reads_octet _).bind (reads_pure _))))
  rwa [Bytes.toUInt32_ofUInt32] at read

/-- As many octets are read as are asked for. -/
theorem reads_take (part : Bytes) : Reads (take part.length) part part := by
  intro octets offset stands
  have inside : offset + part.length ≤ octets.toArray.size := stands.le
  rw [take, if_pos inside, stands.extract]

/-- Values that are written one after the other are read one after the other. -/
theorem Reads.times {decoder : Decoder α} {write : α → Bytes} (values : List α)
    (each : ∀ value ∈ values, Reads decoder (write value) value) :
    Reads (decoder.times values.length) (values.flatMap write) values := by
  induction values with
  | nil => exact reads_pure []
  | cons value rest ih =>
    obtain ⟨first, others⟩ := List.forall_mem_cons.mp each
    exact first.bind ((ih others).give rfl)

/-- Something is true of all the values that the decoder can give. -/
def Gives (decoder : Decoder α) (property : α → Prop) : Prop :=
  ∀ octets offset value next, decoder octets offset = .ok (value, next) → property value

variable {property : α → Prop}

/-- A value that is known has its property. -/
theorem gives_pure {value : α} (holds : property value) : Gives (pure value) property := by
  intro octets offset _ _ read
  cases read
  exact holds

/-- A failure gives nothing, so there is nothing that would lack a property. -/
theorem gives_fail (fault : Malformed) : Gives (fail fault) property :=
  fun _ _ _ _ read => nomatch read

/-- Under a condition, each branch may use what decides for it. -/
theorem gives_ite {condition : Prop} [Decidable condition] {first second : Decoder α}
    (holds : condition → Gives first property) (fails : ¬condition → Gives second property) :
    Gives (if condition then first else second) property := by
  split
  next h => exact holds h
  next h => exact fails h

/-- Nothing needs to be known of the first value. -/
theorem gives_bind {first : Decoder β} {rest : β → Decoder α}
    (ends : ∀ value, Gives (rest value) property) : Gives (first >>= rest) property := by
  intro octets offset result stop read
  obtain ⟨value, next, -, last⟩ := exists_of_bind read
  exact ends value octets next result stop last

/-- What a first decoder gives may be used for what the next one gives. -/
theorem Gives.bind {first : Decoder β} {known : β → Prop} {rest : β → Decoder α}
    (begins : Gives first known) (ends : ∀ value, known value → Gives (rest value) property) :
    Gives (first >>= rest) property := by
  intro octets offset result stop read
  obtain ⟨value, next, front, last⟩ := exists_of_bind read
  exact ends value (begins octets offset value next front) octets next result stop last

/-- What is taken has as many octets as were asked for. -/
theorem gives_take (count : Nat) : Gives (take count) (·.length = count) := by
  intro octets offset part next read
  rw [take] at read
  split at read
  next inside =>
    cases read
    rw [Array.length_toList, Array.size_extract, Nat.min_eq_left inside, Nat.add_sub_cancel_left]
  · exact nomatch read

/-- A decoder that is repeated gives that many values, each of them with the property. -/
theorem Gives.times {decoder : Decoder α} (each : Gives decoder property) (count : Nat) :
    Gives (decoder.times count) fun values =>
      values.length = count ∧ ∀ value ∈ values, property value := by
  induction count with
  | zero => exact gives_pure ⟨rfl, nofun⟩
  | succ count ih =>
    refine each.bind fun first holds => ih.bind fun rest others => gives_pure ⟨?_, ?_⟩
    · rw [List.length_cons, others.1]
    · exact List.forall_mem_cons.mpr ⟨holds, others.2⟩

end Decoder

/-- A message that is read is read by the decoder of messages, from the start. -/
theorem Message.exists_decoder_of_decode {bytes : Bytes} {message : Message}
    (read : decode bytes = .ok message) :
    ∃ next, decoder bytes.toArray 0 = .ok (message, next) := by
  rw [decode] at read
  cases begun : decoder bytes.toArray 0 with
  | error fault =>
    rw [begun] at read
    exact nomatch read
  | ok pair =>
    rw [begun] at read
    obtain rfl := Except.ok.inj read
    exact ⟨pair.2, rfl⟩

end DnsForwarder
