import DnsForwarder.Message.Encoder

/-!
# Replies made on the spot

Refusals, failures and redirections repeat the identifier, the kind of query, the wish for recursion
and the questions of the request; no other part of it comes back.
-/

namespace DnsForwarder

/-- How long a redirection may be remembered, in seconds. -/
abbrev redirectTtl : UInt32 := 60

namespace Message

/-- A reply with a response code and no records. -/
def replyTo (request : Message) (responseCode : Fin 4096) : Message where
  id := request.id
  response := true
  opcode := request.opcode
  recursionDesired := request.recursionDesired
  recursionAvailable := true
  responseCode
  questions := request.questions

/-- A refusal. -/
def refused (request : Message) : Message := request.replyTo ResponseCode.refused

/-- A report of failure. -/
def serverFailure (request : Message) : Message := request.replyTo ResponseCode.serverFailure

/-- A reply that gives an address for the name of the first question. -/
def redirect (request : Message) (target : Net.IPv4) : Message :=
  { request.replyTo ResponseCode.noError with
    answers := (request.questions.head?.map fun question =>
      ⟨question.name, classInternet, redirectTtl, .a target⟩).toList }

/-- The header and the questions of a response, marked as cut. -/
def truncate (response : Message) : Message where
  id := response.id
  response := true
  opcode := response.opcode
  truncated := true
  recursionDesired := response.recursionDesired
  recursionAvailable := response.recursionAvailable
  responseCode := response.responseCode
  questions := response.questions

/-- The octets of a reply to a request that came as a datagram. A reply that is larger than the
sender of the request takes is cut. -/
def encodeForDatagram? (request reply : Message) : Option Bytes :=
  match reply.encode? with
  | some bytes =>
    if bytes.length ≤ request.maxPayload.toNat then some bytes else reply.truncate.encode?
  | none => none

end Message

end DnsForwarder
