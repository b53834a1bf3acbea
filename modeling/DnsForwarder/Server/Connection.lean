import DnsForwarder.Message.Frame
import DnsForwarder.Server.Service

/-!
# Connections

A connection carries frames, which are answered in their order, each reply in a frame of its own.
What is not answered is passed over. A connection ends when the server is told to stop, when no
whole frame comes in time, when no more can be read and when a reply cannot be written.

A connection is served in turns, each of which waits for one frame. What the network and the rest of
the server do in a turn is given with it, so that any behaviour of theirs is one of the possible
turns.
-/

namespace DnsForwarder.Server

/-- Why a connection ends. -/
inductive Closing where
  /-- The server was told to stop. -/
  | shutdown
  /-- The idle timeout has passed. -/
  | idle
  /-- The stream ends before a frame does. -/
  | ended
  | unreadable (reason : String)
  | unwritable (reason : String)
deriving DecidableEq, Repr

/-- The end that a fault of a frame leads to. A message that fits no frame cannot be written. -/
def Closing.ofFault : Frame.Fault → Closing
  | .unexpectedEnd => .ended
  | .invalidInput reason => .unwritable reason

/-- What happens around one frame of a connection. -/
structure Turn (σ : Type) where
  /-- What the rest of the server does until the frame is there. -/
  meanwhile : State σ → State σ := id
  /-- Why the frame is not waited for any longer. -/
  interruption : Option Closing := none
  timing : Engine.Timing
  /-- Why a reply cannot be written. -/
  writeFault : Option String := none

variable {σ : Type}

/-- Writes a reply, if there is one, behind what was sent before. Only whole frames count as
sent. -/
def Turn.write (turn : Turn σ) (sent : Bytes) : Option Bytes → Except Closing Bytes
  | none => .ok sent
  | some reply =>
    match Frame.encode reply with
    | .error fault => .error (.ofFault fault)
    | .ok frame =>
      match turn.writeFault with
      | some reason => .error (.unwritable reason)
      | none => .ok (sent ++ frame)

/-- How a connection went: the stream that was sent back and why it ended. -/
structure Service where
  sent : Bytes
  closing : Closing
deriving DecidableEq, Repr

/-- Serves a connection from one of its turns on, with what is still to be read from it and what was
sent already. -/
def serveFrom (forwarder : Engine.Forwarder σ) (client : Net.SocketAddress) (turns : Nat → Turn σ)
    (number : Nat) (stream sent : Bytes) (state : State σ) :
    Dialogue.Outcome Engine.interface (State σ) Service :=
  let turn := turns number
  let state := turn.meanwhile state
  match turn.interruption with
  | some closing => ⟨⟨sent, closing⟩, state, []⟩
  | none =>
    match read : Frame.decode stream with
    | .error fault => ⟨⟨sent, .ofFault fault⟩, state, []⟩
    | .ok (message, rest) =>
      have : rest.length < stream.length := Frame.length_of_decode read
      let first :=
        answer forwarder
          { transport := .tcp, client, bytes := message, timing := turn.timing } state
      match turn.write sent first.value with
      | .error closing => ⟨⟨sent, closing⟩, first.state, first.asked⟩
      | .ok sent =>
        let others := serveFrom forwarder client turns (number + 1) rest sent first.state
        { others with asked := first.asked ++ others.asked }
termination_by stream.length

/-- Serves a connection on which a client sends a stream. -/
def serveConnection (forwarder : Engine.Forwarder σ) (client : Net.SocketAddress)
    (turns : Nat → Turn σ)
    (stream : Bytes) (state : State σ) : Dialogue.Outcome Engine.interface (State σ) Service :=
  serveFrom forwarder client turns 0 stream [] state

end DnsForwarder.Server
