import DnsForwarder.Proofs.Message.Reading

/-!
# What was read can be written

A message that was read is regular (`DnsForwarder.Message.regular_of_decode`): its parts have the
lengths that a message has room for, data of a type without a form of its own is there and is of
such a type, what is EDNS data is not among the records of the additional section, and without EDNS
data the response code has four bits.
-/

namespace DnsForwarder

/-- The type has a form of its own, or never has data. -/
def RecordType.isReserved (type : UInt16) : Bool :=
  [a, ns, cname, soa, ptr, mx, txt, aaaa, srv, opt, ixfr, axfr, any, 0].contains type

/-- The octets of an option can be counted in a word. -/
def EdnsOption.Fits (option : EdnsOption) : Prop := option.octets.length < 65536

/-- Data as it is read. -/
def RecordData.Regular : RecordData → Prop
  | .txt strings => strings ≠ [] ∧ ∀ string ∈ strings, string.length < 256
  | .opt options => ∀ option ∈ options, option.Fits
  | .other type octets => octets ≠ [] ∧ RecordType.isReserved type = false
  | _ => True

/-- A record as it is read. The owner of EDNS data is the root, and its payload size is at least
512. -/
structure Record.Regular (record : Record) : Prop where
  data : record.data.Regular
  owner : record.data.type = RecordType.opt → record.name = .root
  payload : record.data.type = RecordType.opt → Message.minPayload ≤ record.class

/-- A message as it is read. -/
structure Message.Regular (message : Message) : Prop where
  questions : message.questions.length < 65536
  answers : message.answers.length < 65536
  authority : message.authority.length < 65536
  additional : message.additional.length + message.edns.toList.length < 65536
  records : ∀ record ∈ message.answers ++ message.authority ++ message.additional, record.Regular
  plain : ∀ record ∈ message.additional, record.data.type ≠ RecordType.opt
  payload : ∀ edns ∈ message.edns, Message.minPayload ≤ edns.payload
  options : ∀ edns ∈ message.edns, ∀ option ∈ edns.options, option.Fits
  code : message.edns = none → message.responseCode.val < 16

namespace Message

/-- The size of payloads that is used is never below the least one. -/
theorem le_max_minPayload (payload : UInt16) : minPayload ≤ max payload minPayload := by
  change minPayload ≤ if payload ≤ minPayload then minPayload else payload
  split
  · exact UInt16.le_refl _
  next above => exact UInt16.le_of_lt (UInt16.not_le.mp above)

/-- A size of payloads that is large enough is used as it is. -/
theorem max_minPayload_of_le {payload : UInt16} (le : minPayload ≤ payload) :
    max payload minPayload = payload := by
  change (if payload ≤ minPayload then minPayload else payload) = payload
  split
  next below => exact UInt16.le_antisymm le below
  · rfl

end Message

open Decoder

namespace RecordData

/-- Strings that are read have lengths of one octet, and there is one if there are octets for it. -/
theorem gives_readStrings (length read : Nat) :
    Gives (readStrings length read) fun strings =>
      (read < length → strings ≠ []) ∧ ∀ string ∈ strings, string.length < 256 := by
  induction left : length - read using Nat.strongRecOn generalizing read with
  | _ left ih =>
    rw [readStrings]
    split
    next inside =>
      refine gives_bind fun size => (gives_take size.toNat).bind fun string counted => ?_
      refine (ih _ (by omega) _ rfl).bind fun rest others => gives_pure ⟨fun _ => nofun, ?_⟩
      exact List.forall_mem_cons.mpr ⟨counted ▸ size.toNat_lt, others.2⟩
    next outside => exact gives_pure ⟨fun inside => absurd inside outside, nofun⟩

/-- Options that are read have lengths of two octets. -/
theorem gives_readOptions (length read : Nat) :
    Gives (readOptions length read) fun options => ∀ option ∈ options.getD [], option.Fits := by
  induction left : length - read using Nat.strongRecOn generalizing read with
  | _ left ih =>
    rw [readOptions]
    split
    · refine gives_bind fun code => ?_
      split
      · refine gives_bind fun size => ?_
        dsimp only
        split
        · exact gives_fail _
        · split
          · refine (gives_take size.toNat).bind fun octets counted => ?_
            refine (ih _ (by omega) _ rfl).bind fun rest others => gives_pure ?_
            cases rest with
            | none => exact nofun
            | some rest =>
              have fits : octets.length < 65536 := by
                rw [counted]
                exact size.toNat_lt
              exact List.forall_mem_cons.mpr ⟨fits, others⟩
          · exact gives_bind fun _ => gives_pure nofun
      · exact gives_pure nofun
    · exact gives_pure nofun

/-- Data is of the type that is read. -/
theorem gives_readTyped (type : UInt16) {length : Nat} (some_data : length ≠ 0) :
    Gives (readTyped type length) fun data => data.Regular ∧ data.type = type := by
  rw [readTyped]
  refine gives_ite (fun a => gives_bind fun octets => ?_) fun not_a => ?_
  · split
    · exact gives_pure ⟨trivial, a.symm⟩
    · exact gives_fail _
  refine gives_ite (fun aaaa => gives_bind fun groups => ?_) fun not_aaaa => ?_
  · split
    · exact gives_pure ⟨trivial, aaaa.symm⟩
    · exact gives_fail _
  refine gives_ite (fun ns => gives_bind fun name => gives_pure ⟨trivial, ns.symm⟩) fun not_ns => ?_
  refine gives_ite (fun cname => gives_bind fun name => gives_pure ⟨trivial, cname.symm⟩)
    fun not_cname => ?_
  refine gives_ite (fun ptr => gives_bind fun name => gives_pure ⟨trivial, ptr.symm⟩)
    fun not_ptr => ?_
  refine gives_ite (fun mx => gives_bind fun preference => gives_bind fun exchange =>
    gives_pure ⟨trivial, mx.symm⟩) fun not_mx => ?_
  refine gives_ite (fun soa => gives_bind fun primary => gives_bind fun mailbox =>
    gives_bind fun serial => gives_bind fun refresh => gives_bind fun retry =>
    gives_bind fun expire =>
    gives_bind fun minimum => gives_pure ⟨trivial, soa.symm⟩) fun not_soa => ?_
  refine gives_ite (fun srv => gives_bind fun priority => gives_bind fun weight =>
    gives_bind fun port => gives_bind fun target => gives_pure ⟨trivial, srv.symm⟩)
      fun not_srv => ?_
  refine gives_ite (fun txt => (gives_readStrings length 0).bind fun strings regular =>
    gives_pure ⟨⟨regular.1 (Nat.pos_of_ne_zero some_data), regular.2⟩, txt.symm⟩) fun not_txt => ?_
  refine gives_ite (fun opt => (gives_readOptions length 0).bind fun options fit =>
    gives_pure ⟨fit, opt.symm⟩) fun not_opt => ?_
  refine gives_ite (fun _ => gives_fail _) fun not_empty => ?_
  refine (gives_take length).bind fun octets counted => gives_pure ⟨⟨?_, ?_⟩, rfl⟩
  · rintro rfl
    exact some_data counted.symm
  · simp only [not_or] at not_empty
    simp [RecordType.isReserved, *]

/-- The data of each type that is read can be written, and is of that type. -/
theorem gives_decoder (type : UInt16) (length : Nat) :
    Gives (decoder type length) fun data => data.Regular ∧ data.type = type := by
  rw [decoder]
  refine gives_ite (fun _ => gives_pure ⟨trivial, rfl⟩) fun some_data => gives_bind fun start => ?_
  refine (gives_readTyped type some_data).bind fun data regular => gives_bind fun stop => ?_
  exact gives_ite (fun _ => gives_pure regular) fun _ => gives_fail _

end RecordData

/-- A name without labels is the root. -/
theorem Name.eq_root {name : Name} (empty : name.isRoot = true) : name = .root := by
  obtain ⟨labels, labels_fit, wire_fits⟩ := name
  obtain rfl := List.isEmpty_iff.mp empty
  rfl

/-- A record that is read can be written. -/
theorem Record.gives_decoder : Gives Record.decoder Record.Regular := by
  rw [Record.decoder]
  refine gives_bind fun name => gives_bind fun type =>
    gives_ite (fun _ => gives_fail _) fun owner => ?_
  refine gives_bind fun recordClass => gives_bind fun ttl => gives_bind fun length =>
    gives_bind fun left => ?_
  refine gives_ite (fun _ => gives_fail _) fun _ => ?_
  refine (RecordData.gives_decoder type length.toNat).bind fun data ⟨regular, typed⟩ =>
    gives_pure ?_
  subst typed
  refine ⟨regular, fun opt => Name.eq_root ?_, fun opt => ?_⟩
  · simpa [show data.type = RecordType.opt from opt] using owner
  · rw [if_pos opt]
    exact Message.le_max_minPayload recordClass

/-- The options of EDNS data that was read fit. -/
theorem Record.fits_of_regular {record : Record} (regular : record.Regular) :
    ∀ option ∈ record.edns.1.options, option.Fits := by
  have data := regular.data
  rw [Record.edns]
  cases options : record.data <;> rw [options] at data <;> first | exact data | exact nofun

namespace Message

/-- A record of EDNS data is taken out of the others. -/
theorem gives_readAdditional (edns : Option Record) (count : Nat)
    (regular : ∀ record ∈ edns, record.Regular ∧ record.data.type = RecordType.opt) :
    Gives (readAdditional edns count) fun read =>
      read.1.length + read.2.toList.length = count + edns.toList.length ∧
      (∀ record ∈ read.1, record.Regular ∧ record.data.type ≠ RecordType.opt) ∧
      ∀ record ∈ read.2, record.Regular ∧ record.data.type = RecordType.opt := by
  induction count generalizing edns with
  | zero => exact gives_pure ⟨rfl, nofun, regular⟩
  | succ count ih =>
    rw [readAdditional]
    refine Record.gives_decoder.bind fun record read => gives_ite (fun opt => ?_) fun other => ?_
    · have typed : record.data.type = RecordType.opt := beq_iff_eq.mp opt
      cases edns with
      | some _ => exact gives_fail _
      | none =>
        intro octets offset value next rest
        obtain ⟨counted, others⟩ :=
          ih (some record) (by rintro _ ⟨⟩; exact ⟨read, typed⟩) octets offset value next rest
        exact ⟨by simpa [Nat.add_assoc] using counted, others⟩
    · have typed : record.data.type ≠ RecordType.opt := by simpa [Record.isEdns] using other
      refine (ih edns regular).bind fun (records, edns) ⟨counted, plain, kept⟩ =>
        gives_pure ⟨?_, ?_, kept⟩
      · simp only [List.length_cons] at counted ⊢
        omega
      · exact List.forall_mem_cons.mpr ⟨⟨read, typed⟩, plain⟩

/-- A message that is read can be written: what its sections count is what they hold, and its EDNS
data and response code are where they belong. -/
theorem gives_decoder : Gives decoder Message.Regular := by
  rw [decoder]
  refine gives_bind fun id => gives_bind fun high => gives_bind fun low => ?_
  refine gives_bind fun questionCount => gives_bind fun answerCount =>
    gives_bind fun authorityCount =>
    gives_bind fun additionalCount => ?_
  have asked : Gives Question.decoder fun _ => True := fun _ _ _ _ _ => trivial
  refine (asked.times _).bind fun questions asked => ?_
  refine (Record.gives_decoder.times _).bind fun answers answered => ?_
  refine (Record.gives_decoder.times _).bind fun authority authorized => ?_
  refine (gives_readAdditional none additionalCount.toNat nofun).bind
    fun (additional, edns) ⟨counted, plain, kept⟩ => gives_pure ?_
  have records : ∀ record ∈ answers ++ authority ++ additional, record.Regular := by
    intro record member
    obtain member | member := List.mem_append.mp member
    · exact (List.mem_append.mp member).elim (answered.2 record) (authorized.2 record)
    · exact (plain record member).1
  constructor
  case questions => exact asked.1 ▸ questionCount.toNat_lt
  case answers => exact answered.1 ▸ answerCount.toNat_lt
  case authority => exact authorized.1 ▸ authorityCount.toNat_lt
  case records => exact records
  case plain => exact fun record member => (plain record member).2
  case additional =>
    -- EDNS data is one of the records that are counted, and is kept apart.
    have few : additional.length + edns.toList.length < 65536 :=
      counted ▸ additionalCount.toNat_lt
    cases edns <;> exact few
  case payload =>
    cases edns with
    | none => exact nofun
    | some record =>
      obtain ⟨regular, opt⟩ := kept record rfl
      rintro _ ⟨⟩
      exact regular.payload opt
  case options =>
    cases edns with
    | none => exact nofun
    | some record =>
      obtain ⟨regular, opt⟩ := kept record rfl
      rintro _ ⟨⟩
      exact record.fits_of_regular regular
  case code =>
    cases edns with
    | none =>
      intro _
      have bound : 0 * 16 + low.toNat % 16 < 16 := by omega
      exact Nat.lt_of_le_of_lt (Nat.mod_le _ _) bound
    | some record => exact nofun

/-- A message that was read is regular. -/
theorem regular_of_decode {bytes : Bytes} {message : Message} (read : decode bytes = .ok message) :
    message.Regular := by
  obtain ⟨next, begun⟩ := exists_decoder_of_decode read
  exact gives_decoder _ _ _ _ begun

end Message

end DnsForwarder
