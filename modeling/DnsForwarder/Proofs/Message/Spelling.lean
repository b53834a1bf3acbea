import DnsForwarder.Proofs.Message.Compression
import DnsForwarder.Proofs.Message.Regular

/-!
# Reading what pieces write

`DnsForwarder.Piece.Spells` says that a decoder reads what a piece writes, behind any octets in
which the names that are remembered stand, and that the names stand there afterwards too. It goes
from the parts of a message to the whole: names, data of each type, questions and records are read
as they were written, but for the letter case of the targets of `SRV` records
(`DnsForwarder.Record.spells_piece`).
-/

namespace DnsForwarder

open Decoder Written

namespace Piece

variable {α β : Type}

/-- What was written behind some octets is read as a value, and all that is remembered stands where
it is said to stand. -/
structure Spelled (front : Bytes) (out : Bytes × Written) (decoder : Decoder α) (value : α) :
    Prop where
  known : Known (front ++ out.1) out.2
  read : ∀ back,
    decoder (front ++ out.1 ++ back).toArray front.length = .ok (value, (front ++ out.1).length)

/-- The decoder, which is told how many octets there are, reads what the piece writes, as long as
that is not more than a message has room for. -/
def Spells (piece : Piece) (decoder : Nat → Decoder α) (value : α) : Prop :=
  ∀ front written, Known front written →
    (front ++ (piece written front.length).1).length ≤ Message.maxLength →
    Spelled front (piece written front.length) (decoder (piece written front.length).1.length) value

/-- Three pieces may be put together in either order. -/
theorem append_assoc (first second third : Piece) :
    first ++ second ++ third = first ++ (second ++ third) := by
  funext written offset
  change append (append first second) third written offset =
    append first (append second third) written offset
  simp only [append, List.length_append, List.append_assoc, Nat.add_assoc]

/-- Octets may be written as two pieces. -/
theorem octets_append (first second : Bytes) :
    octets (first ++ second) = octets first ++ octets second := rfl

/-- Octets that a decoder reads are spelled behind any others, and nothing more is remembered. -/
theorem spelled_of_reads {decoder : Decoder α} {bytes front : Bytes} {written : Written} {value : α}
    (reads : Reads decoder bytes value) (known : Known front written) :
    Spelled front (bytes, written) decoder value where
  known := known.append bytes
  read back := by
    rw [List.length_append]
    exact reads _ _ (Bytes.at_length front bytes back)

/-- Octets that are written as they are spell what a decoder reads from them. -/
theorem spells_octets {decoder : Nat → Decoder α} {bytes : Bytes} {value : α}
    (reads : Reads (decoder bytes.length) bytes value) : (octets bytes).Spells decoder value :=
  fun _ _ known _ => spelled_of_reads reads known

/-- What is written behind some octets and what is written behind that are read one after the
other. -/
theorem Spelled.bind {front : Bytes} {out after : Bytes × Written} {begin : Decoder α}
    {rest : α → Decoder β} {value : α} {result : β} (begins : Spelled front out begin value)
    (ends : Spelled (front ++ out.1) after (rest value) result) :
    Spelled front (out.1 ++ after.1, after.2) (begin >>= rest) result where
  known := by
    rw [← List.append_assoc]
    exact ends.known
  read back := by
    have first := begins.read (after.1 ++ back)
    have second := ends.read back
    simp only [List.append_assoc] at first second ⊢
    rw [bind_of_ok first, second]

/-- Pieces one after the other are read by decoders one after the other. -/
theorem Spells.bind {first second : Piece} {begin : Decoder α} {rest : α → Decoder β} {value : α}
    {result : β} (begins : first.Spells (fun _ => begin) value)
    (ends : second.Spells (fun _ => rest value) result) :
    (first ++ second).Spells (fun _ => begin >>= rest) result := by
  intro front written known fits
  change (front ++ (append first second written front.length).1).length ≤ _ at fits
  have place : front.length + (first written front.length).1.length =
      (front ++ (first written front.length).1).length := List.length_append.symm
  simp only [append, place, ← List.append_assoc] at fits
  have part := begins front written known (by rw [List.length_append] at fits; omega)
  have whole := part.bind (ends _ _ part.known fits)
  rwa [← place] at whole

/-- The value may be made into another when all is read. -/
theorem Spells.give {piece : Piece} {decoder : Nat → Decoder α} {rest : α → Decoder β} {value : α}
    {result : β} (spells : piece.Spells decoder value) (gives : rest value = pure result) :
    piece.Spells (fun count => decoder count >>= rest) result := by
  intro front written known fits
  have spelled := spells front written known fits
  refine ⟨spelled.known, fun back => (bind_of_ok (spelled.read back) rest).trans ?_⟩
  rw [gives]
  rfl

/-- The length in front is what the decoder is told. -/
theorem Spells.withLength {piece : Piece} {decoder : Nat → Decoder α} {value : α}
    (spells : piece.Spells decoder value) :
    piece.withLength.Spells (fun _ => do
      let length ← word16
      let left ← remaining
      if left < length.toNat then fail (.dataTooLong length.toNat left)
      else decoder length.toNat) value := by
  intro front written known fits
  obtain ⟨out, same⟩ : ∃ out, piece written (front.length + 2) = out := ⟨_, rfl⟩
  have whole : piece.withLength written front.length =
      (Bytes.ofUInt16 (UInt16.ofNat out.1.length) ++ out.1, out.2) := by
    rw [Piece.withLength, same]
  rw [whole] at fits ⊢
  simp only [List.length_append, Bytes.length_ofUInt16] at fits
  have short : out.1.length < 65536 := by
    change _ ≤ 65535 at fits
    omega
  have counted : (UInt16.ofNat out.1.length).toNat = out.1.length := UInt16.toNat_ofNat_of_lt' short
  generalize UInt16.ofNat out.1.length = word at counted ⊢
  have place : (front ++ Bytes.ofUInt16 word).length = front.length + 2 := by
    rw [List.length_append, Bytes.length_ofUInt16]
  have begins := spelled_of_reads (reads_word16 word) known
  have ends := spells _ written begins.known
  rw [place, same, List.length_append, place] at ends
  have ends := ends (by omega)
  refine begins.bind ⟨ends.known, fun back => ?_⟩
  have left : remaining (front ++ Bytes.ofUInt16 word ++ out.1 ++ back).toArray
      (front ++ Bytes.ofUInt16 word).length = .ok (_, _) := rfl
  have enough : ¬(front ++ Bytes.ofUInt16 word ++ out.1 ++ back).toArray.size -
      (front ++ Bytes.ofUInt16 word).length < word.toNat := by
    simp only [List.size_toArray, List.length_append]
    omega
  rw [bind_of_ok left, if_neg enough, counted]
  exact ends.read back

end Piece

namespace Name

/-- A name that stands where it was written is read there. -/
theorem Laid.spelled {name : Name} {front : Bytes} {written : Written} {out : Bytes × Written}
    (laid : Laid front front.length written name.labels out) (known : Known front written) :
    Piece.Spelled front out Name.decoder name where
  known := by
    intro entry member
    obtain earlier | placed := laid.placed entry member
    · exact known.append out.1 entry earlier
    · exact placed
  read back := (laid.stands.append back).decoder

/-- A name is never written with nothing. -/
theorem piece_ne_nil (name : Name) (written : Written) (offset : Nat) :
    (name.piece written offset).1 ≠ [] := by
  rw [piece]
  cases name.labels with
  | nil => exact List.cons_ne_nil _ _
  | cons label rest =>
    rw [compressed]
    cases written.offset? (label :: rest) <;> exact List.cons_ne_nil _ _

/-- A name that may be compressed is read as it is. -/
theorem spells_piece (name : Name) : name.piece.Spells (fun _ => Name.decoder) name :=
  fun _ _ known _ => (laid_piece name known).spelled known

/-- A name that is written in full is read in lowercase. -/
theorem spells_plainPiece (name : Name) :
    name.plainPiece.Spells (fun _ => Name.decoder) name.lowercase :=
  fun front written known _ => (laid_plainPiece name front written).spelled known

end Name

namespace RecordData

/-- Strings with their lengths in front are read up to the end of their record. -/
theorem reads_readStrings (strings : List Bytes) (fit : ∀ string ∈ strings, string.length < 256)
    {length read : Nat} (whole : read + (strings.flatMap Name.lengthed).length = length) :
    Reads (readStrings length read) (strings.flatMap Name.lengthed) strings := by
  induction strings generalizing read with
  | nil =>
    rw [readStrings, if_neg (Nat.not_lt.mpr (Nat.le_of_eq whole.symm : length ≤ read))]
    exact reads_pure []
  | cons string rest ih =>
    obtain ⟨first, others⟩ := List.forall_mem_cons.mp fit
    have counted : (UInt8.ofNat string.length).toNat = string.length :=
      UInt8.toNat_ofNat_of_lt' first
    have parts : (string :: rest).flatMap Name.lengthed =
        [UInt8.ofNat string.length] ++ (string ++ rest.flatMap Name.lengthed) := by
      simp only [List.flatMap_cons, Name.lengthed, List.cons_append, List.nil_append]
    rw [parts] at whole ⊢
    simp only [List.length_append, List.length_cons, List.length_nil] at whole
    have text : Reads (take (UInt8.ofNat string.length).toNat) string string := by
      rw [counted]
      exact reads_take string
    rw [readStrings, if_pos (by omega)]
    exact (reads_octet _).bind (text.bind ((ih others (by omega)).give rfl))

/-- Options are read up to the end of their record. -/
theorem reads_readOptions (options : List EdnsOption) (fit : ∀ option ∈ options, option.Fits)
    {length read : Nat} (whole : read + (options.flatMap EdnsOption.bytes).length = length) :
    Reads (readOptions length read) (options.flatMap EdnsOption.bytes) (some options) := by
  induction options generalizing read with
  | nil =>
    rw [readOptions, if_neg (Nat.not_lt.mpr (Nat.le_of_eq whole.symm : length ≤ read))]
    exact reads_pure _
  | cons option rest ih =>
    obtain ⟨first, others⟩ := List.forall_mem_cons.mp fit
    have counted : (UInt16.ofNat option.octets.length).toNat = option.octets.length :=
      UInt16.toNat_ofNat_of_lt' first
    have parts : (option :: rest).flatMap EdnsOption.bytes =
        Bytes.ofUInt16 option.code ++ (Bytes.ofUInt16 (UInt16.ofNat option.octets.length) ++
          (option.octets ++ rest.flatMap EdnsOption.bytes)) := by
      simp only [List.flatMap_cons, EdnsOption.bytes, List.append_assoc]
    rw [parts] at whole ⊢
    simp only [List.length_append, Bytes.length_ofUInt16] at whole
    have octets :
        Reads (take (UInt16.ofNat option.octets.length).toNat) option.octets option.octets := by
      rw [counted]
      exact reads_take _
    rw [readOptions, if_pos (by omega)]
    refine (reads_word16 _).bind ?_
    rw [if_pos (by omega)]
    refine (reads_word16 _).bind ?_
    dsimp only
    rw [if_neg (by omega), if_pos (.inl (by omega))]
    exact octets.bind ((ih others (by omega)).give rfl)

/-- The data with the target of an `SRV` record in small letters. -/
def lowerTarget : RecordData → RecordData
  | .srv priority weight port target => .srv priority weight port target.lowercase
  | data => data

/-- Lowercase of a target does not change the type of the data. -/
@[simp] theorem type_lowerTarget (data : RecordData) : data.lowerTarget.type = data.type := by
  cases data <;> rfl

/-- Data of a type without a form of its own is read as octets. -/
theorem readTyped_other {type : UInt16} (plain : RecordType.isReserved type = false)
    (length : Nat) :
    readTyped type length = take length >>= fun octets => pure (.other type octets) := by
  simp only [RecordType.isReserved, List.contains_cons, List.contains_nil, Bool.or_false,
    Bool.or_eq_false_iff, beq_eq_false_iff_ne] at plain
  simp only [readTyped, plain, ↓reduceIte, or_self]

/-- Data that is not empty is read by its type. -/
theorem spells_readTyped {data : RecordData} (regular : data.Regular)
    (some_data : ∀ type, data ≠ .empty type) :
    data.piece.Spells (readTyped data.type) data.lowerTarget := by
  cases data with
  | empty type => exact absurd rfl (some_data type)
  | a address => exact Piece.spells_octets ((reads_take address.octets).give rfl)
  | aaaa address =>
    have groups := Reads.times address.groups fun group _ => reads_word16 group
    rw [address.length_groups] at groups
    refine Piece.spells_octets (groups.give ?_)
    rw [Net.IPv6.ofGroups?, dif_pos address.length_groups]
    rfl
  | ns name => exact name.spells_piece.give rfl
  | cname name => exact name.spells_piece.give rfl
  | ptr name => exact name.spells_piece.give rfl
  | mx preference exchange =>
    exact (Piece.spells_octets (reads_word16 preference)).bind (exchange.spells_piece.give rfl)
  | soa primary mailbox serial refresh retry expire minimum =>
    refine Eq.mpr (congrArg (Piece.Spells · _ _) (Piece.append_assoc ..)) ?_
    refine primary.spells_piece.bind (mailbox.spells_piece.bind (Piece.spells_octets ?_))
    exact (reads_word32 serial).bind ((reads_word32 refresh).bind ((reads_word32 retry).bind
      ((reads_word32 expire).bind ((reads_word32 minimum).bind (reads_pure _)))))
  | srv priority weight port target =>
    have numbers : Piece.octets ([priority, weight, port].flatMap Bytes.ofUInt16) =
        .octets (Bytes.ofUInt16 priority) ++
          (.octets (Bytes.ofUInt16 weight) ++ .octets (Bytes.ofUInt16 port)) := rfl
    rw [piece, numbers, Piece.append_assoc, Piece.append_assoc]
    refine (Piece.spells_octets (reads_word16 priority)).bind ?_
    refine (Piece.spells_octets (reads_word16 weight)).bind ?_
    exact (Piece.spells_octets (reads_word16 port)).bind (target.spells_plainPiece.give rfl)
  | txt strings =>
    exact Piece.spells_octets ((reads_readStrings strings regular.2 (Nat.zero_add _)).give rfl)
  | opt options =>
    exact Piece.spells_octets ((reads_readOptions options regular (Nat.zero_add _)).give rfl)
  | other type octets =>
    have reads : Reads (readTyped type octets.length) octets (.other type octets) := by
      rw [readTyped_other regular.2]
      exact (reads_take octets).give rfl
    exact Piece.spells_octets reads

/-- Data that is not empty has octets. -/
theorem piece_ne_nil {data : RecordData} (regular : data.Regular)
    (some_data : ∀ type, data ≠ .empty type) (some_options : data ≠ .opt []) (written : Written)
    (offset : Nat) : (data.piece written offset).1 ≠ [] := by
  cases data with
  | empty type => exact absurd rfl (some_data type)
  | a address => exact nofun
  | aaaa address =>
    obtain ⟨groups, eight⟩ := address
    cases groups with
    | nil => exact nomatch eight
    | cons group rest => exact nofun
  | ns name => exact name.piece_ne_nil _ _
  | cname name => exact name.piece_ne_nil _ _
  | ptr name => exact name.piece_ne_nil _ _
  | mx preference exchange => exact nofun
  | soa primary mailbox serial refresh retry expire minimum =>
    exact List.append_ne_nil_of_left_ne_nil
      (List.append_ne_nil_of_left_ne_nil (primary.piece_ne_nil _ _) _) _
  | srv priority weight port target => exact nofun
  | txt strings =>
    cases strings with
    | nil => exact absurd rfl regular.1
    | cons string rest => exact nofun
  | opt options =>
    cases options with
    | nil => exact absurd rfl some_options
    | cons option rest => exact nofun
  | other type octets => exact regular.1

/-- The data of a record is read as it was written, but for the case of a target, unless it is a
list of options without any. -/
theorem spells_decoder {data : RecordData} (regular : data.Regular)
    (some_options : data ≠ .opt []) :
    data.piece.Spells (decoder data.type) data.lowerTarget := by
  by_cases empty : ∃ type, data = .empty type
  · obtain ⟨type, rfl⟩ := empty
    exact Piece.spells_octets (reads_pure _)
  have some_data : ∀ type, data ≠ .empty type := not_exists.mp empty
  intro front written known fits
  have spelled := spells_readTyped regular some_data front written known fits
  have filled := mt List.eq_nil_of_length_eq_zero
    (piece_ne_nil regular some_data some_options written front.length)
  generalize data.piece written front.length = out at *
  rw [decoder, if_neg filled]
  refine ⟨spelled.known, fun back => ?_⟩
  have start : offset (front ++ out.1 ++ back).toArray front.length = .ok (_, _) := rfl
  have stop : offset (front ++ out.1 ++ back).toArray (front ++ out.1).length = .ok (_, _) := rfl
  have exact_length : (front ++ out.1).length - front.length = out.1.length := by
    rw [List.length_append, Nat.add_sub_cancel_left]
  rw [bind_of_ok start, bind_of_ok (spelled.read back), bind_of_ok stop, if_pos exact_length]
  rfl

end RecordData

namespace Question

/-- A question is read as it was written. -/
theorem spells_piece (question : Question) : question.piece.Spells (fun _ => decoder) question :=
  question.name.spells_piece.bind (Piece.spells_octets
    ((reads_word16 question.type).bind ((reads_word16 question.class).give rfl)))

end Question

namespace Record

/-- A record is read as it was written, if its data is. -/
theorem spells_of_data {record : Record} (regular : record.Regular) {data : RecordData}
    (spells : record.data.piece.Spells (RecordData.decoder record.data.type) data) :
    record.piece.Spells (fun _ => decoder) { record with data } := by
  have parts : record.piece = record.name.piece ++ (.octets (Bytes.ofUInt16 record.data.type) ++
      (.octets (Bytes.ofUInt16 record.class) ++ (.octets (Bytes.ofUInt32 record.ttl) ++
        record.data.piece.withLength))) := by
    rw [piece, Piece.octets_append, Piece.octets_append]
    simp only [Piece.append_assoc]
  have owner : ¬(record.data.type = RecordType.opt ∧ !record.name.isRoot) := by
    rintro ⟨opt, other⟩
    rw [regular.owner opt] at other
    exact nomatch other
  have raised : (if record.data.type = RecordType.opt then max record.class Message.minPayload
      else record.class) = record.class := by
    split
    next opt => exact Message.max_minPayload_of_le (regular.payload opt)
    · rfl
  rw [parts]
  refine record.name.spells_piece.bind ((Piece.spells_octets (reads_word16 _)).bind ?_)
  rw [if_neg owner]
  refine (Piece.spells_octets (reads_word16 _)).bind
    ((Piece.spells_octets (reads_word32 _)).bind ?_)
  refine (spells.give ?_).withLength
  dsimp only
  rw [raised]

/-- The record with the target of an `SRV` record in small letters. -/
def lowerTarget (record : Record) : Record := { record with data := record.data.lowerTarget }

/-- A record that is no EDNS data is read as it was written, but for the case of a target. -/
theorem spells_piece {record : Record} (regular : record.Regular)
    (plain : record.data.type ≠ RecordType.opt) :
    record.piece.Spells (fun _ => decoder) record.lowerTarget :=
  spells_of_data regular
    (RecordData.spells_decoder regular.data fun options => plain (options ▸ rfl))

end Record

end DnsForwarder
