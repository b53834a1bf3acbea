import DnsForwarder.Message

/-!
# Writing messages

Names are compressed: the longest end of a name that was written before is replaced by a pointer to
the first place where it stands. What counts as written before are the ends of all names so far that
began early enough for a pointer to reach. Targets of `SRV` records are written in small letters and
in full; their ends can be pointed to as well.
-/

namespace DnsForwarder

/-- The ends of names that were written, with their offsets in the message, oldest first. -/
abbrev Written := Array (Nat × List Bytes)

namespace Written

/-- Where an end of a name stands. -/
def offset? (written : Written) (labels : List Bytes) : Option Nat :=
  (written.find? fun entry => entry.2 == labels).map (·.1)

end Written

/-- Octets for a place in a message, given what was written before and the offset of the place. They
come with what is written after them. -/
abbrev Piece := Written → Nat → Bytes × Written

namespace Piece

/-- Octets that hold no name. -/
def octets (bytes : Bytes) : Piece := fun written _ => (bytes, written)

/-- One piece after another. -/
def append (first second : Piece) : Piece := fun written offset =>
  let (front, written) := first written offset
  let (back, written) := second written (offset + front.length)
  (front ++ back, written)

instance : Append Piece := ⟨append⟩

/-- A piece with its length in front. -/
def withLength (piece : Piece) : Piece := fun written offset =>
  let (bytes, written) := piece written (offset + 2)
  (Bytes.ofUInt16 (UInt16.ofNat bytes.length) ++ bytes, written)

end Piece

/-- The first offset that no end of a name is remembered for: names whose labels end there or later
are not pointed to. -/
abbrev pointerReach : Nat := 0x3FFF

namespace Name

/-- Whether the ends of labels written at an offset are remembered. -/
def reachable (labels : List Bytes) (offset : Nat) : Bool :=
  offset + wireLength labels - 1 < pointerReach

/-- Labels up to the first end that is written already, and a pointer to that. -/
def compressed (remember : Bool) : List Bytes → Piece
  | [], written, _ => ([0], written)
  | label :: rest, written, offset =>
    match written.offset? (label :: rest) with
    | some target => (Bytes.ofUInt16 (UInt16.ofNat (0xC000 + target)), written)
    | none =>
      let written := if remember then written.push (offset, label :: rest) else written
      let (bytes, written) := compressed remember rest written (offset + label.length + 1)
      (UInt8.ofNat label.length :: label ++ bytes, written)

/-- All the labels. -/
def uncompressed (remember : Bool) : List Bytes → Piece
  | [], written, _ => ([0], written)
  | label :: rest, written, offset =>
    let known := (written.offset? (label :: rest)).isSome
    let written := if remember && !known then written.push (offset, label :: rest) else written
    let (bytes, written) := uncompressed remember rest written (offset + label.length + 1)
    (UInt8.ofNat label.length :: label ++ bytes, written)

/-- A name as it is mostly written. -/
def piece (name : Name) : Piece := fun written offset =>
  compressed (reachable name.labels offset) name.labels written offset

/-- A name in small letters and in full. -/
def plainPiece (name : Name) : Piece := fun written offset =>
  let labels := name.lowercase.labels
  uncompressed (reachable labels offset) labels written offset

end Name

namespace EdnsOption

/-- A code, a length and the octets. -/
def bytes (option : EdnsOption) : Bytes :=
  Bytes.ofUInt16 option.code ++ Bytes.ofUInt16 (UInt16.ofNat option.octets.length) ++ option.octets

end EdnsOption

namespace RecordData

/-- The data of a record. -/
def piece : RecordData → Piece
  | .empty _ => .octets []
  | .a address => .octets address.octets
  | .aaaa address => .octets address.octets
  | .ns name => name.piece
  | .cname name => name.piece
  | .ptr name => name.piece
  | .mx preference exchange => .octets (Bytes.ofUInt16 preference) ++ exchange.piece
  | .soa primary mailbox serial refresh retry expire minimum =>
    primary.piece ++ mailbox.piece ++
      .octets ([serial, refresh, retry, expire, minimum].flatMap Bytes.ofUInt32)
  | .srv priority weight port target =>
    .octets ([priority, weight, port].flatMap Bytes.ofUInt16) ++ target.plainPiece
  | .txt strings => .octets (strings.flatMap fun string => UInt8.ofNat string.length :: string)
  | .opt options => .octets (options.flatMap EdnsOption.bytes)
  | .other _ octets => .octets octets

end RecordData

namespace Question

/-- A name, a type and a class. -/
def piece (question : Question) : Piece :=
  question.name.piece ++ .octets (Bytes.ofUInt16 question.type ++ Bytes.ofUInt16 question.class)

end Question

namespace Record

/-- A name, the fixed fields and the data with its length. -/
def piece (record : Record) : Piece :=
  record.name.piece ++
    .octets (Bytes.ofUInt16 record.data.type ++ Bytes.ofUInt16 record.class ++
      Bytes.ofUInt32 record.ttl) ++
    record.data.piece.withLength

end Record

namespace Message

/-- The EDNS data as a record, whose time to live holds the upper bits of the response code. -/
def ednsRecord (responseCode : Fin 4096) (edns : Edns) : Record where
  name := .root
  «class» := edns.payload
  ttl := UInt32.ofNat
    (responseCode.val / 16 * 16777216 + edns.version.toNat * 65536 + edns.flags.toNat)
  data := .opt edns.options

/-- The additional section as it is sent, EDNS data last. -/
def additionalSent (message : Message) : List Record :=
  message.additional ++ (message.edns.map (ednsRecord message.responseCode)).toList

/-- A bit of an octet. -/
def bit (value : Bool) (weight : Nat) : Nat := if value then weight else 0

/-- The first octet of flags. -/
def highFlags (message : Message) : UInt8 :=
  UInt8.ofNat (bit message.response 0x80 + message.opcode.val * 8 + bit message.authoritative 4 +
    bit message.truncated 2 + bit message.recursionDesired 1)

/-- The second octet of flags, with the lower bits of the response code. -/
def lowFlags (message : Message) : UInt8 :=
  UInt8.ofNat (bit message.recursionAvailable 0x80 + bit message.authenticData 0x20 +
    bit message.checkingDisabled 0x10 + message.responseCode.val % 16)

/-- The twelve octets at the front. -/
def headerBytes (message : Message) : Bytes :=
  Bytes.ofUInt16 message.id ++ [message.highFlags, message.lowFlags] ++
    [message.questions.length, message.answers.length, message.authority.length,
      message.additionalSent.length].flatMap fun count => Bytes.ofUInt16 (UInt16.ofNat count)

/-- What a message is written from: its questions and records in order. -/
def pieces (message : Message) : List Piece :=
  message.questions.map Question.piece ++
    (message.answers ++ message.authority ++ message.additionalSent).map Record.piece

/-- Writes pieces at the end of octets. -/
def writePieces (pieces : List Piece) (start : Array UInt8) : Array UInt8 :=
  (pieces.foldl
    (fun (state : Array UInt8 × Written) piece =>
      let (bytes, written) := piece state.2 state.1.size
      (state.1 ++ bytes, written))
    (start, #[])).1

/-- The octets of a message, whatever their number. -/
def octets (message : Message) : Bytes :=
  (writePieces message.pieces message.headerBytes.toArray).toList

/-- The most octets that a message may have. -/
abbrev maxLength : Nat := 65535

/-- The octets of a message, if they are not too many. -/
def encode? (message : Message) : Option Bytes :=
  let bytes := message.octets
  if bytes.length ≤ maxLength then some bytes else none

/-- A message that is not too long is written as its octets. -/
theorem encode?_of_le (message : Message) (fits : message.octets.length ≤ maxLength) :
    message.encode? = some message.octets :=
  if_pos fits

/-- A message that is too long is not written. -/
theorem encode?_of_lt (message : Message) (long : maxLength < message.octets.length) :
    message.encode? = none :=
  if_neg (Nat.not_le.mpr long)

/-- What is said of a message that has too many octets. -/
def tooLong : String := s!"maximum buffer size exceeded: {maxLength}"

end Message

end DnsForwarder
