import DnsForwarder.Engine
import DnsForwarder.Net.Host

/-!
# Listeners

A server listens on one address for datagrams and for connections. The address is read from its
text, the listener for connections is bound first, and a failure leaves the engine as it was.
-/

namespace DnsForwarder.Server

namespace Settings

/-- A server listens at all of its addresses. -/
def usualBindAddress : String := "0.0.0.0"

/-- The port of the domain name system. -/
def usualPort : UInt16 := 53

/-- A connection may be idle for ten seconds. -/
def usualTcpIdleTimeoutSecs : Nat := 10

/-- Exchanges in progress have five seconds to end. -/
def usualDrainTimeoutSecs : Nat := 5

end Settings

open Settings in
/-- How a server listens and when it gives up waiting. -/
structure Settings where
  bindAddress : String := usualBindAddress
  port : UInt16 := usualPort
  tcpIdleTimeoutSecs : Nat := usualTcpIdleTimeoutSecs
  drainTimeoutSecs : Nat := usualDrainTimeoutSecs
deriving DecidableEq, Repr

namespace Settings

/-- Address and port as text. -/
def listenAddress (settings : Settings) : String := Net.endpoint settings.bindAddress settings.port

end Settings

/-- Binds both listeners and gives their address. The one for datagrams gets the port that the other
one got. -/
def bind (host : Net.Host) (settings : Settings) : Except Error Net.SocketAddress :=
  let listen := settings.listenAddress
  match Net.SocketAddress.ofString? listen with
  | none =>
    .error (.configuration s!"Invalid listen address {listen}: invalid socket address syntax")
  | some address =>
    match host.bindFault .tcp address with
    | some error => .error (.bindFailed .tcp (toString address) error.message)
    | none =>
      let bound := host.localAddress address
      match host.bindFault .udp bound with
      | some error => .error (.bindFailed .udp (toString bound) error.message)
      | none => .ok bound

/-- What is reported when the listeners cannot be bound. -/
def bindFailure (settings : Settings) (error : Error) : Event :=
  .error "Failed to bind DNS listeners"
    [("listen", settings.listenAddress), ("error", error.message)]

/-- What is reported when a server starts. -/
def readyEvent (address : Net.SocketAddress) : Event :=
  .info "DNS server ready (UDP + TCP)" [("bind_address", toString address)]

/-- How long to wait after a number of failures to accept a connection, in milliseconds: it starts
at 10, doubles with each further failure and stays at a second. -/
def acceptBackoff (failures : Nat) : Nat :=
  min (10 * Nat.pow 2 (min (failures - 1) 16)) 1000

/-- A listener waits a second at most. -/
theorem acceptBackoff_le (failures : Nat) : acceptBackoff failures ≤ 1000 :=
  Nat.min_le_right _ _

/-- A listener waits ten milliseconds at least. -/
theorem le_acceptBackoff (failures : Nat) : 10 ≤ acceptBackoff failures := by
  unfold acceptBackoff
  have : 0 < Nat.pow 2 (min (failures - 1) 16) := Nat.pow_pos Nat.zero_lt_two
  omega

end DnsForwarder.Server
