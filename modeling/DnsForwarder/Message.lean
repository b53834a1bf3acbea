import DnsForwarder.Message.Name
import DnsForwarder.Net.Address

/-!
# DNS messages

A message has a header, questions and three sections of records. The data of an `OPT` record in the
additional section is kept apart as the message's EDNS data. The response code has twelve bits, of
which the header holds four and the EDNS data the others.
-/

namespace DnsForwarder

/-! The numbers of the record types that have a form of their own -/

namespace RecordType

abbrev a : UInt16 := 1
abbrev ns : UInt16 := 2
abbrev cname : UInt16 := 5
abbrev soa : UInt16 := 6
abbrev ptr : UInt16 := 12
abbrev mx : UInt16 := 15
abbrev txt : UInt16 := 16
abbrev aaaa : UInt16 := 28
abbrev srv : UInt16 := 33
abbrev opt : UInt16 := 41
abbrev ixfr : UInt16 := 251
abbrev axfr : UInt16 := 252
abbrev any : UInt16 := 255

end RecordType

/-- The Internet class. -/
abbrev classInternet : UInt16 := 1

/-- What is asked. -/
structure Question where
  name : Name
  type : UInt16
  «class» : UInt16
deriving DecidableEq

/-- An EDNS option: a code and its octets. -/
structure EdnsOption where
  code : UInt16
  octets : Bytes
deriving DecidableEq

/-- The data of a record, by its type. -/
inductive RecordData where
  /-- No data at all, which every type allows. -/
  | empty (type : UInt16)
  | a (address : Net.IPv4)
  | aaaa (address : Net.IPv6)
  | ns (name : Name)
  | cname (name : Name)
  | ptr (name : Name)
  | mx (preference : UInt16) (exchange : Name)
  | soa (primary mailbox : Name) (serial refresh retry expire minimum : UInt32)
  | srv (priority weight port : UInt16) (target : Name)
  | txt (strings : List Bytes)
  | opt (options : List EdnsOption)
  /-- Data of a type without a form of its own. -/
  | other (type : UInt16) (octets : Bytes)
deriving DecidableEq

namespace RecordData

/-- The number of the record type. -/
def type : RecordData → UInt16
  | .empty type => type
  | .a _ => RecordType.a
  | .aaaa _ => RecordType.aaaa
  | .ns _ => RecordType.ns
  | .cname _ => RecordType.cname
  | .ptr _ => RecordType.ptr
  | .mx .. => RecordType.mx
  | .soa .. => RecordType.soa
  | .srv .. => RecordType.srv
  | .txt _ => RecordType.txt
  | .opt _ => RecordType.opt
  | .other type _ => type

end RecordData

/-- A record. -/
structure Record where
  name : Name
  «class» : UInt16
  ttl : UInt32
  data : RecordData
deriving DecidableEq

/-- The EDNS data of a message, without the bits of the response code. -/
structure Edns where
  payload : UInt16
  version : UInt8
  flags : UInt16
  options : List EdnsOption
deriving DecidableEq

/-! The response codes that the forwarder itself gives -/

namespace ResponseCode

abbrev noError : Fin 4096 := ⟨0, by decide⟩
abbrev serverFailure : Fin 4096 := ⟨2, by decide⟩
abbrev refused : Fin 4096 := ⟨5, by decide⟩

end ResponseCode

/-- A message. Counts are not kept, and neither is the reserved bit of the header. -/
structure Message where
  id : UInt16
  /-- Set in replies. -/
  response : Bool := false
  opcode : Fin 16 := ⟨0, by decide⟩
  authoritative : Bool := false
  truncated : Bool := false
  recursionDesired : Bool := false
  recursionAvailable : Bool := false
  authenticData : Bool := false
  checkingDisabled : Bool := false
  responseCode : Fin 4096 := ResponseCode.noError
  questions : List Question := []
  answers : List Record := []
  authority : List Record := []
  additional : List Record := []
  edns : Option Edns := none
deriving DecidableEq

namespace Message

/-- The smallest size that a sender of UDP messages may count on. -/
abbrev minPayload : UInt16 := 512

/-- The size of UDP messages that the sender of this message takes. -/
def maxPayload (message : Message) : UInt16 :=
  match message.edns with
  | some edns => max edns.payload minPayload
  | none => minPayload

end Message

end DnsForwarder
