import DnsForwarder.Proofs.Message.Spelling

/-!
# Writing a message and reading it back

A message that was read, with EDNS data in its additional section only, is read again as it was
written. The targets of its `SRV` records are in small letters then, and nothing else is different
(`DnsForwarder.Message.decode_of_encode?`).
-/

namespace DnsForwarder

open Decoder Written

namespace Piece

variable {α β : Type}

/-- Pieces one after the other. -/
def concat (pieces : List Piece) : Piece := pieces.foldr append (octets [])

/-- Pieces may be put together in two parts. -/
theorem concat_append (first second : List Piece) :
    concat (first ++ second) = concat first ++ concat second := by
  induction first with
  | nil => rfl
  | cons piece rest ih =>
    change piece ++ concat (rest ++ second) = piece ++ concat rest ++ concat second
    rw [ih, append_assoc]

/-- Pieces that are read one by one are read one after the other. -/
theorem spells_concat {decoder : Decoder β} {write : α → Piece} {read : α → β} {values : List α}
    {count : Nat} (counted : count = values.length)
    (each : ∀ value ∈ values, (write value).Spells (fun _ => decoder) (read value)) :
    (concat (values.map write)).Spells (fun _ => decoder.times count) (values.map read) := by
  subst counted
  induction values with
  | nil => exact spells_octets (reads_pure [])
  | cons value rest ih =>
    obtain ⟨first, others⟩ := List.forall_mem_cons.mp each
    exact first.bind ((ih others).give rfl)

end Piece

namespace Message

open Piece

/-- Pieces are written behind what is there, as one piece. -/
theorem writePieces_eq (pieces : List Piece) (start : Array UInt8) :
    (writePieces pieces start).toList = start.toList ++ (concat pieces #[] start.size).1 := by
  have all (octets : Array UInt8) (written : Written) :
      (pieces.foldl (fun (state : Array UInt8 × Written) (piece : Piece) =>
        (state.1 ++ (piece state.2 state.1.size).1, (piece state.2 state.1.size).2))
          (octets, written)).1.toList =
          octets.toList ++ (concat pieces written octets.size).1 := by
    induction pieces generalizing octets written with
    | nil => exact (List.append_nil _).symm
    | cons piece rest ih =>
      have place : (octets ++ (piece written octets.size).1).size =
          octets.size + (piece written octets.size).1.length := by
        rw [← Array.length_toList, Array.toList_appendList, List.length_append, Array.length_toList]
      rw [List.foldl_cons, ih, Array.toList_appendList, place, List.append_assoc]
      rfl
  exact all start #[]

/-- Data of EDNS is read as it was written, and empty data for no options. -/
theorem exists_spells_options {options : List EdnsOption} (fit : ∀ option ∈ options, option.Fits) :
    ∃ data, (RecordData.opt options).piece.Spells (RecordData.decoder RecordType.opt) data ∧
      data.type = RecordType.opt ∧
      ∀ name «class» ttl, (Record.edns ⟨name, «class», ttl, data⟩).1.options = options := by
  cases options with
  | nil => exact ⟨.empty RecordType.opt, spells_octets (reads_pure _), rfl, fun _ _ _ => rfl⟩
  | cons option rest =>
    exact ⟨.opt (option :: rest), RecordData.spells_decoder fit nofun, rfl, fun _ _ _ => rfl⟩

/-- EDNS data is read from the record that it is written as, with the upper bits of the response
code. -/
theorem exists_spells_ednsRecord (responseCode : Fin 4096) {edns : Edns}
    (payload : minPayload ≤ edns.payload) (fit : ∀ option ∈ edns.options, option.Fits) :
    ∃ record, (ednsRecord responseCode edns).piece.Spells (fun _ => Record.decoder) record ∧
      record.isEdns = true ∧ record.edns = (edns, responseCode.val / 16) := by
  obtain ⟨data, spells, typed, same⟩ := exists_spells_options fit
  have regular : (ednsRecord responseCode edns).Regular := ⟨fit, fun _ => rfl, fun _ => payload⟩
  refine ⟨_, Record.spells_of_data regular spells, beq_iff_eq.mpr typed, ?_⟩
  have code := responseCode.isLt
  have version := edns.version.toNat_lt
  have flags := edns.flags.toNat_lt
  have ttl : (ednsRecord responseCode edns).ttl.toNat =
      responseCode.val / 16 * 16777216 + edns.version.toNat * 65536 + edns.flags.toNat :=
    UInt32.toNat_ofNat_of_lt' (by change _ < 4294967296; omega)
  have version : UInt8.ofNat ((ednsRecord responseCode edns).ttl.toNat / 65536) = edns.version := by
    apply UInt8.toNat_inj.mp
    rw [ttl, UInt8.toNat_ofNat']
    omega
  have flags : UInt16.ofNat (ednsRecord responseCode edns).ttl.toNat = edns.flags := by
    apply UInt16.toNat_inj.mp
    rw [ttl, UInt16.toNat_ofNat']
    omega
  have upper : (ednsRecord responseCode edns).ttl.toNat / 16777216 = responseCode.val / 16 := by
    omega
  refine Prod.ext ?_ upper
  simp only [Record.edns, version, flags]
  exact congrArg (Edns.mk edns.payload edns.version edns.flags) (same .root edns.payload 0)

/-- The records of the additional section, and behind them the EDNS data or nothing. -/
theorem spells_readAdditional {records : List Record} {last : Piece} {count : Nat}
    {edns : Option Record}
    (each : ∀ record ∈ records, record.Regular ∧ record.data.type ≠ RecordType.opt)
    (ends : last.Spells (fun _ => readAdditional none count) ([], edns)) :
    (concat (records.map Record.piece) ++ last).Spells
      (fun _ => readAdditional none (count + records.length))
      (records.map Record.lowerTarget, edns) := by
  induction records with
  | nil => exact ends
  | cons record rest ih =>
    obtain ⟨⟨regular, plain⟩, others⟩ := List.forall_mem_cons.mp each
    have kept : record.lowerTarget.isEdns = false := by
      rw [Record.isEdns, Record.lowerTarget, RecordData.type_lowerTarget]
      exact beq_eq_false_iff_ne.mpr plain
    have parts : concat ((record :: rest).map Record.piece) ++ last =
        record.piece ++ (concat (rest.map Record.piece) ++ last) := append_assoc ..
    rw [parts]
    refine (Record.spells_piece regular plain).bind ?_
    rw [kept]
    exact (ih others).give rfl

/-- The message with the targets of `SRV` records in small letters. -/
def lowerTargets (message : Message) : Message :=
  { message with
    answers := message.answers.map Record.lowerTarget
    authority := message.authority.map Record.lowerTarget
    additional := message.additional.map Record.lowerTarget }

/-- The additional section is read as its records and the EDNS data that was written behind them. -/
theorem exists_spells_additionalSent {message : Message} (regular : message.Regular) :
    ∃ edns, (concat (message.additionalSent.map Record.piece)).Spells
      (fun _ => readAdditional none message.additionalSent.length)
      (message.additional.map Record.lowerTarget, edns) ∧
      edns.map Record.edns = message.edns.map fun edns =>
        (edns, message.responseCode.val / 16) := by
  have each : ∀ record ∈ message.additional, record.Regular ∧ record.data.type ≠ RecordType.opt :=
    fun record member =>
      ⟨regular.records record (List.mem_append_right _ member), regular.plain record member⟩
  have payload := regular.payload
  have fit := regular.options
  rw [additionalSent, List.map_append, concat_append, List.length_append, Nat.add_comm]
  cases sent : message.edns with
  | none => exact ⟨none, spells_readAdditional each (spells_octets (reads_pure _)), rfl⟩
  | some edns =>
    obtain ⟨record, spells, isEdns, same⟩ :=
      exists_spells_ednsRecord message.responseCode (payload _ sent) (fit _ sent)
    refine ⟨some record, spells_readAdditional each (spells.bind ?_), congrArg some same⟩
    rw [isEdns]
    exact spells_octets (reads_pure _)

/-- The additional section is not too long to be counted, also with the EDNS data. -/
theorem Regular.additionalSent {message : Message} (regular : message.Regular) :
    message.additionalSent.length < 65536 := by
  have few := regular.additional
  rw [Message.additionalSent, List.length_append]
  cases sent : message.edns <;> rw [sent] at few <;> exact few

/-- The bits of the response code in the EDNS data and those in the header make the response
code. -/
theorem Regular.joinedCode {message : Message} (regular : message.Regular) :
    let upper := (message.edns.map fun edns => (edns, message.responseCode.val / 16)).map (·.2)
    Fin.ofNat 4096 (upper.getD 0 * 16 + message.responseCode.val % 16) = message.responseCode := by
  have code := message.responseCode.isLt
  apply Fin.ext
  cases sent : message.edns with
  | none =>
    have small := regular.code sent
    change (0 * 16 + message.responseCode.val % 16) % 4096 = message.responseCode.val
    omega
  | some edns =>
    change (message.responseCode.val / 16 * 16 + message.responseCode.val % 16) % 4096 =
      message.responseCode.val
    omega

/-- The first octet of flags is read as it was written. -/
theorem hasBit_highFlags (message : Message) :
    hasBit message.highFlags 0x80 = message.response ∧
      Fin.ofNat 16 (message.highFlags.toNat / 8) = message.opcode ∧
      hasBit message.highFlags 4 = message.authoritative ∧
      hasBit message.highFlags 2 = message.truncated ∧
      hasBit message.highFlags 1 = message.recursionDesired := by
  rw [highFlags]
  generalize message.response = response, message.opcode = opcode,
    message.authoritative = authoritative, message.truncated = truncated,
    message.recursionDesired = recursionDesired
  revert response opcode authoritative truncated recursionDesired
  decide +kernel

/-- The second octet of flags is read as it was written, with the lower bits of the response
code. -/
theorem hasBit_lowFlags (message : Message) :
    hasBit message.lowFlags 0x80 = message.recursionAvailable ∧
      hasBit message.lowFlags 0x20 = message.authenticData ∧
      hasBit message.lowFlags 0x10 = message.checkingDisabled ∧
      message.lowFlags.toNat % 16 = message.responseCode.val % 16 := by
  rw [lowFlags]
  generalize message.recursionAvailable = recursionAvailable, message.authenticData = authenticData,
    message.checkingDisabled = checkingDisabled
  obtain ⟨lower, same⟩ : ∃ lower : Fin 16, lower.val = message.responseCode.val % 16 :=
    ⟨⟨_, Nat.mod_lt _ (by decide)⟩, rfl⟩
  rw [← same]
  clear same
  revert recursionAvailable authenticData checkingDisabled lower
  decide +kernel

/-- A whole message is read from its pieces. -/
theorem spells_pieces {message : Message} (regular : message.Regular)
    (plain : ∀ record ∈ message.answers ++ message.authority, record.data.type ≠ RecordType.opt) :
    (.octets message.headerBytes ++ concat message.pieces : Piece).Spells (fun _ => decoder)
      message.lowerTargets := by
  obtain ⟨edns, additional, same⟩ := exists_spells_additionalSent regular
  have header : Piece.octets message.headerBytes =
      .octets (Bytes.ofUInt16 message.id) ++
        (.octets [message.highFlags] ++ (.octets [message.lowFlags] ++
        (.octets (Bytes.ofUInt16 (UInt16.ofNat message.questions.length)) ++
        (.octets (Bytes.ofUInt16 (UInt16.ofNat message.answers.length)) ++
        (.octets (Bytes.ofUInt16 (UInt16.ofNat message.authority.length)) ++
        .octets (Bytes.ofUInt16 (UInt16.ofNat message.additionalSent.length))))))) := rfl
  have records {records : List Record}
      (among : ∀ record ∈ records, record ∈ message.answers ++ message.authority) :
      ∀ record ∈ records, record.piece.Spells (fun _ => Record.decoder) record.lowerTarget :=
    fun record member => Record.spells_piece
      (regular.records record (List.mem_append_left _ (among record member)))
      (plain record (among record member))
  rw [header, pieces]
  simp only [List.map_append, concat_append, Piece.append_assoc]
  refine (spells_octets (reads_word16 _)).bind ((spells_octets (reads_octet _)).bind
    ((spells_octets (reads_octet _)).bind ?_))
  refine (spells_octets (reads_word16 _)).bind ((spells_octets (reads_word16 _)).bind
    ((spells_octets (reads_word16 _)).bind ((spells_octets (reads_word16 _)).bind ?_)))
  refine (spells_concat (UInt16.toNat_ofNat_of_lt' regular.questions)
    fun question _ => question.spells_piece).bind ?_
  refine (spells_concat (UInt16.toNat_ofNat_of_lt' regular.answers)
    (records fun _ member => List.mem_append_left _ member)).bind ?_
  refine (spells_concat (UInt16.toNat_ofNat_of_lt' regular.authority)
    (records fun _ member => List.mem_append_right _ member)).bind ?_
  rw [UInt16.toNat_ofNat_of_lt' regular.additionalSent]
  refine additional.give ?_
  obtain ⟨response, opcode, authoritative, truncated, recursionDesired⟩ := message.hasBit_highFlags
  obtain ⟨recursionAvailable, authenticData, checkingDisabled, lower⟩ := message.hasBit_lowFlags
  dsimp only
  rw [same, response, opcode, authoritative, truncated, recursionDesired, recursionAvailable,
    authenticData, checkingDisabled, lower, regular.joinedCode, List.map_id']
  cases sent : message.edns <;> rw [lowerTargets, sent] <;> rfl

/-- A message that was read, with EDNS data in the additional section only, is read again as it was
written, but for the letter case of the targets of `SRV` records. -/
theorem decode_of_encode? {message : Message} {bytes : Bytes} (regular : message.Regular)
    (plain : ∀ record ∈ message.answers ++ message.authority, record.data.type ≠ RecordType.opt)
    (written : message.encode? = some bytes) : decode bytes = .ok message.lowerTargets := by
  have whole : message.octets =
      ((.octets message.headerBytes ++ concat message.pieces : Piece) #[] 0).1 := by
    change _ = message.headerBytes ++ (concat message.pieces #[] (0 + message.headerBytes.length)).1
    rw [octets, writePieces_eq, Nat.zero_add]
    rfl
  rw [encode?] at written
  split at written
  next fits =>
    obtain rfl := Option.some.inj written
    rw [whole] at fits
    have spelled := spells_pieces regular plain [] #[] (known_empty []) fits
    have read := spelled.read []
    rw [List.append_nil, List.nil_append] at read
    rw [decode, whole]
    exact congrArg (Except.map Prod.fst) read
  next => exact absurd written.symm (Option.some_ne_none bytes)

end Message

end DnsForwarder
