import DnsForwarder.Message

/-!
# Reading messages

A message is read from front to back; what follows the last record is not looked at. Names may end
in a pointer to an earlier place. A pointer leads to a place before the start of the piece of name
that it ends, and the piece found there must not run into the piece that pointed to it, so reading a
name comes to an end.
-/

namespace DnsForwarder

/-- Why octets are not a message. -/
inductive Malformed where
  | endOfInput
  | labelCode (octet : UInt8)
  | pointerNotPrior (offset target : Nat)
  | overlap (start other : Nat)
  | nameTooLong
  | dataLength (read expected : Nat)
  | dataTooLong (need remain : Nat)
  | optionTooLong
  | ednsOwner
  | repeatedEdns
  | typeWithData (type : UInt16)
deriving DecidableEq, Repr

namespace Malformed

/-- Binary digits, at least one. -/
def binary (octet : UInt8) : String := String.ofList (Nat.toDigits 2 octet.toNat)

/-- The text of a fault. -/
def message : Malformed → String
  | .endOfInput => "unexpected end of input reached"
  | .labelCode octet => s!"unrecognized label code: {binary octet}"
  | .pointerNotPrior offset target =>
    s!"label points to data not prior to idx: {offset} ptr: {target}"
  | .overlap start other => s!"overlapping labels name {start} other {other}"
  | .nameTooLong => "name label data exceed 255"
  | .dataLength read expected => s!"incorrect rdata length read: {read} expected: {expected}"
  | .dataTooLong need remain =>
    s!"rdata length too large for remaining bytes, need: {need} remain: {remain}"
  | .optionTooLong => "option length exceeds rdata length"
  | .ednsOwner => "edns resource record label must be the root label"
  | .repeatedEdns => "more than one edns record present"
  | .typeWithData type => s!"record type {type.toNat} cannot have data"

end Malformed

/-- Reads from the octets of a message at an offset and gives the offset after what was read. -/
def Decoder (α : Type) := Array UInt8 → Nat → Except Malformed (α × Nat)

namespace Decoder

instance : Monad Decoder where
  pure value := fun _ offset => .ok (value, offset)
  bind first next := fun octets offset =>
    match first octets offset with
    | .error fault => .error fault
    | .ok (value, offset) => next value octets offset

/-- Stops with a fault. -/
def fail {α : Type} (fault : Malformed) : Decoder α := fun _ _ => .error fault

/-- Where the next octet is read. -/
def offset : Decoder Nat := fun _ offset => .ok (offset, offset)

/-- How many octets are left. -/
def remaining : Decoder Nat := fun octets offset => .ok (octets.size - offset, offset)

/-- One octet. -/
def octet : Decoder UInt8 := fun octets offset =>
  if h : offset < octets.size then .ok (octets[offset], offset + 1) else .error .endOfInput

/-- A number of octets. -/
def take (count : Nat) : Decoder Bytes := fun octets offset =>
  if offset + count ≤ octets.size then
    .ok ((octets.extract offset (offset + count)).toList, offset + count)
  else
    .error .endOfInput

/-- A word of two octets. -/
def word16 : Decoder UInt16 := do
  let high ← octet
  let low ← octet
  pure (Bytes.toUInt16 high low)

/-- A word of four octets. -/
def word32 : Decoder UInt32 := do
  let a ← octet
  let b ← octet
  let c ← octet
  let d ← octet
  pure (Bytes.toUInt32 a b c d)

/-- The same thing a number of times. -/
def times {α : Type} (decoder : Decoder α) : Nat → Decoder (List α)
  | 0 => pure []
  | count + 1 => do
    let first ← decoder
    let rest ← times decoder count
    pure (first :: rest)

end Decoder

namespace Name

/-- How a run of labels ends: with the zero octet or with a pointer. -/
inductive RunEnd where
  | zero
  | pointer (offset target : Nat)

/-- Labels that stand one after the other. -/
structure Run where
  labels : List Bytes
  ending : RunEnd
  /-- The offset after the run. -/
  next : Nat

/-- The octets that labels take, without the zero octet. -/
def Run.size (run : Run) : Nat := wireLength run.labels - 1

/-- Reads a run of labels at an offset. They may take up to `room` octets, and reading may not get
to the offset `stop`, if there is one; `start` is where the run began. -/
def readRun (octets : Array UInt8) (start : Nat) (stop : Option Nat) (room offset : Nat) :
    Except Malformed Run :=
  match stop.filter (· ≤ offset) with
  | some other => .error (.overlap start other)
  | none =>
    if h : offset < octets.size then
      let code := octets[offset].toNat
      if code = 0 then
        .ok ⟨[], .zero, offset + 1⟩
      else if 0xC0 ≤ code then
        if h : offset + 1 < octets.size then
          .ok ⟨[], .pointer offset ((code - 0xC0) * 256 + octets[offset + 1].toNat), offset + 2⟩
        else
          .error .endOfInput
      else if 0x40 ≤ code then
        .error (.labelCode octets[offset])
      else if octets.size < offset + 1 + code then
        .error .endOfInput
      else if room < code + 1 then
        .error .nameTooLong
      else
        match readRun octets start stop (room - (code + 1)) (offset + 1 + code) with
        | .error fault => .error fault
        | .ok run =>
          let label := (octets.extract (offset + 1) (offset + 1 + code)).toList
          .ok { run with labels := label :: run.labels }
    else
      .error .endOfInput
termination_by room

/-- Reads the labels of a name that starts, or goes on, at an offset, and gives the offset after the
first run. -/
def readLabels (octets : Array UInt8) (stop : Option Nat) (room start : Nat) :
    Except Malformed (List Bytes × Nat) :=
  match readRun octets start stop room start with
  | .error fault => .error fault
  | .ok run =>
    match run.ending with
    | .zero => .ok (run.labels, run.next)
    | .pointer offset target =>
      if target < start then
        match readLabels octets (some start) (room - run.size) target with
        | .error fault => .error fault
        | .ok (labels, _) => .ok (run.labels ++ labels, run.next)
      else
        .error (.pointerNotPrior offset target)
termination_by start

/-- Reads a name. -/
def decoder : Decoder Name := fun octets offset =>
  match readLabels octets none 254 offset with
  | .error fault => .error fault
  | .ok (labels, next) =>
    match ofLabels? labels with
    | some name => .ok (name, next)
    | none => .error .nameTooLong

end Name

namespace RecordData

open Decoder

/-- Strings with a length octet each, until the data is used up. -/
def readStrings (length : Nat) (read : Nat) : Decoder (List Bytes) := do
  if read < length then
    let size ← octet
    let string ← take size.toNat
    let rest ← readStrings length (read + 1 + size.toNat)
    pure (string :: rest)
  else
    pure []
termination_by length - read

/-- Options until the data is used up; none if it ends inside an option. -/
def readOptions (length : Nat) (read : Nat) : Decoder (Option (List EdnsOption)) := do
  if read < length then
    let code ← word16
    if read + 2 < length then
      let size ← word16
      let left := length - (read + 4)
      if length < size.toNat then
        fail .optionTooLong
      else if size.toNat ≤ left ∨ size = 0 then
        let octets ← take size.toNat
        let rest ← readOptions length (read + 4 + size.toNat)
        pure (rest.map (⟨code, octets⟩ :: ·))
      else
        let _ ← take left
        pure none
    else
      pure none
  else
    pure (some [])
termination_by length - read

/-- Reads data of a type; `length` is its length, which is not zero. -/
def readTyped (type : UInt16) (length : Nat) : Decoder RecordData := do
  if type = RecordType.a then
    match ← take 4 with
    | [w, x, y, z] => pure (.a ⟨w, x, y, z⟩)
    | _ => fail .endOfInput
  else if type = RecordType.aaaa then
    let groups ← word16.times 8
    match Net.IPv6.ofGroups? groups with
    | some address => pure (.aaaa address)
    | none => fail .endOfInput
  else if type = RecordType.ns then
    let name ← Name.decoder
    pure (.ns name)
  else if type = RecordType.cname then
    let name ← Name.decoder
    pure (.cname name)
  else if type = RecordType.ptr then
    let name ← Name.decoder
    pure (.ptr name)
  else if type = RecordType.mx then
    let preference ← word16
    let exchange ← Name.decoder
    pure (.mx preference exchange)
  else if type = RecordType.soa then
    let primary ← Name.decoder
    let mailbox ← Name.decoder
    let serial ← word32
    let refresh ← word32
    let retry ← word32
    let expire ← word32
    let minimum ← word32
    pure (.soa primary mailbox serial refresh retry expire minimum)
  else if type = RecordType.srv then
    let priority ← word16
    let weight ← word16
    let port ← word16
    let target ← Name.decoder
    pure (.srv priority weight port target)
  else if type = RecordType.txt then
    let strings ← readStrings length 0
    pure (.txt strings)
  else if type = RecordType.opt then
    let options ← readOptions length 0
    pure (.opt (options.getD []))
  else if type = 0 ∨ type = RecordType.any ∨ type = RecordType.ixfr ∨ type = RecordType.axfr then
    fail (.typeWithData type)
  else
    let octets ← take length
    pure (.other type octets)

/-- Reads data of a type. All of its octets must be used, and no more. -/
def decoder (type : UInt16) (length : Nat) : Decoder RecordData := do
  if length = 0 then
    pure (.empty type)
  else
    let start ← offset
    let data ← readTyped type length
    let stop ← offset
    if stop - start = length then
      pure data
    else
      fail (.dataLength (stop - start) length)

end RecordData

namespace Question

/-- Reads a name, a type and a class. -/
def decoder : Decoder Question := do
  let name ← Name.decoder
  let type ← Decoder.word16
  let questionClass ← Decoder.word16
  pure ⟨name, type, questionClass⟩

end Question

namespace Record

/-- Reads a record. The class of EDNS data is a payload size, which is at least 512, and its owner
is the root. -/
def decoder : Decoder Record := do
  let name ← Name.decoder
  let type ← Decoder.word16
  if type = RecordType.opt ∧ !name.isRoot then
    Decoder.fail .ednsOwner
  else
    let recordClass ← Decoder.word16
    let ttl ← Decoder.word32
    let length ← Decoder.word16
    let left ← Decoder.remaining
    if left < length.toNat then
      Decoder.fail (.dataTooLong length.toNat left)
    else
      let data ← RecordData.decoder type length.toNat
      let recordClass :=
        if type = RecordType.opt then max recordClass Message.minPayload else recordClass
      pure ⟨name, recordClass, ttl, data⟩

/-- Whether the record is EDNS data. -/
def isEdns (record : Record) : Bool := record.data.type == RecordType.opt

/-- The EDNS data in a record and the upper bits of the response code. -/
def edns (record : Record) : Edns × Nat :=
  let ttl := record.ttl.toNat
  let options :=
    match record.data with
    | .opt options => options
    | _ => []
  (⟨record.class, UInt8.ofNat (ttl / 65536), UInt16.ofNat ttl, options⟩, ttl / 16777216)

end Record

namespace Message

/-- A bit of an octet. -/
def hasBit (octet : UInt8) (weight : Nat) : Bool := octet.toNat / weight % 2 == 1

/-- Reads the additional section: its records without the EDNS data, and that. -/
def readAdditional (edns : Option Record) :
    (count : Nat) → Decoder (List Record × Option Record)
  | 0 => pure ([], edns)
  | count + 1 => do
    let record ← Record.decoder
    if record.isEdns then
      match edns with
      | some _ => Decoder.fail .repeatedEdns
      | none => readAdditional (some record) count
    else
      let (rest, edns) ← readAdditional edns count
      pure (record :: rest, edns)

/-- Reads a message. -/
def decoder : Decoder Message := do
  let id ← Decoder.word16
  let high ← Decoder.octet
  let low ← Decoder.octet
  let questionCount ← Decoder.word16
  let answerCount ← Decoder.word16
  let authorityCount ← Decoder.word16
  let additionalCount ← Decoder.word16
  let questions ← Question.decoder.times questionCount.toNat
  let answers ← Record.decoder.times answerCount.toNat
  let authority ← Record.decoder.times authorityCount.toNat
  let (additional, edns) ← readAdditional none additionalCount.toNat
  let edns := edns.map Record.edns
  let upperCode := (edns.map (·.2)).getD 0
  pure
    { id
      response := hasBit high 0x80
      opcode := Fin.ofNat 16 (high.toNat / 8)
      authoritative := hasBit high 4
      truncated := hasBit high 2
      recursionDesired := hasBit high 1
      recursionAvailable := hasBit low 0x80
      authenticData := hasBit low 0x20
      checkingDisabled := hasBit low 0x10
      responseCode := Fin.ofNat 4096 (upperCode * 16 + low.toNat % 16)
      questions, answers, authority, additional
      edns := edns.map (·.1) }

/-- The message that octets spell, followed by anything. -/
def decode (octets : Bytes) : Except Malformed Message :=
  (decoder octets.toArray 0).map (·.1)

end Message

end DnsForwarder
