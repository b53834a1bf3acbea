import DnsForwarder.Net.Host
import DnsForwarder.Resolver.Channel

/-!
# The socket of a channel

What arrives on a socket waits there, in its order, until a call reads it. An exchange sends its
query with one call and then reads with one call after the other, until a datagram carries its
identifier, a call fails or the deadline is reached. What it does not read is there for the next
exchange.
-/

namespace DnsForwarder.Resolver.Channel

/-- What a call that reads comes to: a datagram, or a failure. -/
abbrev Arrival := Except Net.Fault Bytes

/-- A socket: what was sent on it, and what calls that read come to. -/
structure Socket where
  sent : List Bytes := []
  unread : List Arrival := []

/-- A query that is put on a socket, and what happens there in its time. -/
structure Asking where
  query : Bytes
  id : UInt16
  /-- Why the call that sends the query fails. -/
  sendFault : Option Net.Fault := none
  /-- What comes to the socket before the deadline and did not wait there for an earlier query. -/
  arriving : List Arrival := []

/-- Reads until a datagram carries the identifier or a call fails; gives that and what is left to
read. When there is nothing more to read, the deadline is reached. -/
def listen (id : UInt16) : List Arrival → Except Net.Fault Bytes × List Arrival
  | [] => (.error .late, [])
  | .error fault :: rest => (.error fault, rest)
  | .ok datagram :: rest =>
    let read := cut datagram
    if carries id read then (.ok read, rest) else listen id rest

namespace Socket

/-- Sends a query and waits for its answer. -/
def exchange (server : Net.SocketAddress) (socket : Socket) (asking : Asking) :
    Except Error Bytes × Socket :=
  let there := socket.unread ++ asking.arriving
  match asking.sendFault with
  | some fault => (.error (fault.error server), { socket with unread := there })
  | none =>
    let (heard, unread) := listen asking.id there
    (heard.mapError (Net.Fault.error server), { sent := socket.sent ++ [asking.query], unread })

/-- Sends queries, each when the answer to the one before it is there or is not waited for any
longer. -/
def exchanges (server : Net.SocketAddress) :
    List Asking → (socket : Socket) → List (Except Error Bytes) × Socket
  | [], socket => ([], socket)
  | asking :: rest, socket =>
    let (result, socket) := socket.exchange server asking
    let (results, socket) := exchanges server rest socket
    (result :: results, socket)

end Socket

end DnsForwarder.Resolver.Channel
