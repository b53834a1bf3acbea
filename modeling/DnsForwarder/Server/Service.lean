import DnsForwarder.Engine
import DnsForwarder.Message.Decoder

/-!
# Service

A message that comes in is answered if queries are taken and if it is one; what comes in at other
times or cannot be read is passed over.
-/

namespace DnsForwarder.Server

/-- A message that came in. -/
structure Arrival where
  transport : Transport
  client : Net.SocketAddress
  bytes : Bytes
  timing : Engine.Timing

/-- The most octets of a datagram that are read; the rest is lost. -/
abbrev maxDatagram : Nat := 4096

namespace Arrival

/-- What is read of a message. -/
def read (arrival : Arrival) : Bytes :=
  match arrival.transport with
  | .udp => arrival.bytes.take maxDatagram
  | .tcp => arrival.bytes

end Arrival

/-- The octets of a reply. A datagram is cut to what the sender of the request takes; a reply that
cannot be written is not sent. -/
def encodeReply? (transport : Transport) (request reply : Message) : Option Bytes :=
  match transport with
  | .udp => request.encodeForDatagram? reply
  | .tcp => reply.encode?

variable {σ : Type}

/-- The state of a server: its engine and the state of the resolvers. -/
abbrev State (σ : Type) := Engine × σ

/-- Answers a message. -/
def answer (forwarder : Engine.Forwarder σ) (arrival : Arrival) (state : State σ) :
    Dialogue.Outcome Engine.interface (State σ) (Option Bytes) :=
  if state.1.status.accepting then
    match Message.decode arrival.read with
    | .error _ => ⟨none, state, []⟩
    | .ok request =>
      let outcome := state.1.process arrival.timing forwarder state.2 request arrival.client
        arrival.transport
      { outcome with
        value := outcome.value.bind fun reply => encodeReply? arrival.transport request reply }
  else ⟨none, state, []⟩

/-- What happens to a server while it runs. -/
inductive Happening where
  | message (arrival : Arrival)
  /-- Queries are taken from now on, or no longer. -/
  | accept (value : Bool)

/-- Says whether queries are taken. -/
def State.accept (state : State σ) (value : Bool) : State σ :=
  ({ state.1 with status := { state.1.status with accepting := value } }, state.2)

/-- Goes through what happens, one after the other. The value has what was sent for each message. -/
def run (forwarder : Engine.Forwarder σ) :
    List Happening → State σ → Dialogue.Outcome Engine.interface (State σ) (List (Option Bytes))
  | [], state => ⟨[], state, []⟩
  | .accept value :: rest, state => run forwarder rest (State.accept state value)
  | .message arrival :: rest, state =>
    let first := answer forwarder arrival state
    let others := run forwarder rest first.state
    ⟨first.value :: others.value, others.state, first.asked ++ others.asked⟩

/-- A run goes on from where its first part ended. -/
theorem run_append (forwarder : Engine.Forwarder σ) (first second : List Happening)
    (state : State σ) :
    run forwarder (first ++ second) state =
      let start := run forwarder first state
      let rest := run forwarder second start.state
      ⟨start.value ++ rest.value, rest.state, start.asked ++ rest.asked⟩ := by
  induction first generalizing state with
  | nil => rfl
  | cons happening others ih =>
    cases happening with
    | accept value => simp only [List.cons_append, run, ih]
    | message arrival => simp only [List.cons_append, run, ih, List.append_assoc]

end DnsForwarder.Server
