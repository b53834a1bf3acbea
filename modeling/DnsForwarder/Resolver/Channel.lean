import DnsForwarder.Bytes
import DnsForwarder.Error
import DnsForwarder.Net.Address.Printer

/-!
# The datagram channel

All the datagrams of a resolver come through one socket, in the order of their arrival. An exchange
reads them until one begins with the identifier of its query; the others are thrown away. Exchanges
take turns, and what one of them leaves is there for the next.
-/

namespace DnsForwarder.Resolver.Channel

/-- The most octets of a datagram that are read; the rest is lost. -/
abbrev maxDatagram : Nat := 4096

/-- What is read of a datagram. -/
def cut (datagram : Bytes) : Bytes := datagram.take maxDatagram

/-- Whether a datagram begins with an identifier. -/
def carries (id : UInt16) : Bytes → Bool
  | high :: low :: _ => Bytes.toUInt16 high low == id
  | _ => false

/-- Reads datagrams until one carries the identifier; gives that and what is left to read. -/
def receive (id : UInt16) : List Bytes → Option Bytes × List Bytes
  | [] => (none, [])
  | datagram :: rest =>
    let read := cut datagram
    if carries id read then (some read, rest) else receive id rest

/-- An exchange with the datagrams that wait and those that come before its deadline. The second
part waits for the next exchange. -/
def exchange (server : Net.SocketAddress) (id : UInt16) (waiting arriving : List Bytes) :
    Except Error Bytes × List Bytes :=
  match receive id (waiting ++ arriving) with
  | (some read, rest) => (.ok read, rest)
  | (none, rest) => (.error (.timeout (toString server)), rest)

/-- Exchanges one after the other, each with its identifier and the datagrams that come in its
time. -/
def exchanges (server : Net.SocketAddress) :
    List (UInt16 × List Bytes) → (waiting : List Bytes) → List (Except Error Bytes) × List Bytes
  | [], waiting => ([], waiting)
  | (id, arriving) :: rest, waiting =>
    let (result, waiting) := exchange server id waiting arriving
    let (results, waiting) := exchanges server rest waiting
    (result :: results, waiting)

end DnsForwarder.Resolver.Channel
