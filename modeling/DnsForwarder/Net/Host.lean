import DnsForwarder.Error
import DnsForwarder.Net.Address.Printer

/-!
# The host

What the operating system says when sockets are made. A host is given by its answers; `isolated` is
a machine none of whose interfaces is up.
-/

namespace DnsForwarder.Net

/-- An error of the operating system. -/
structure OsError where
  code : Nat
  text : String
deriving DecidableEq, Repr

namespace OsError

def noSuchFile : OsError := ⟨2, "No such file or directory"⟩
def noSuchDevice : OsError := ⟨19, "No such device"⟩
def notADirectory : OsError := ⟨20, "Not a directory"⟩
def isADirectory : OsError := ⟨21, "Is a directory"⟩
def invalidArgument : OsError := ⟨22, "Invalid argument"⟩
def nameTooLong : OsError := ⟨36, "File name too long"⟩
def addressInUse : OsError := ⟨98, "Address already in use"⟩
def addressNotAvailable : OsError := ⟨99, "Cannot assign requested address"⟩
def networkUnreachable : OsError := ⟨101, "Network is unreachable"⟩
def connectionRefused : OsError := ⟨111, "Connection refused"⟩
def timedOut : OsError := ⟨110, "Connection timed out"⟩

/-- The text with the number. -/
def message (error : OsError) : String :=
  let code := error.code
  s!"{error.text} (os error {code})"

end OsError

/-- The kinds of failed transfers that are told apart. -/
inductive FaultKind where
  | refused
  | timedOut
  | other
deriving DecidableEq, Repr

/-- A failed transfer and its text. -/
structure Fault where
  kind : FaultKind
  text : String
deriving DecidableEq, Repr

namespace Fault

/-- The failure behind an error of the operating system. -/
def ofOsError (error : OsError) : Fault :=
  let kind : FaultKind :=
    if error = .connectionRefused then .refused else if error = .timedOut then .timedOut else .other
  ⟨kind, error.message⟩

/-- A stream that ends where octets are due. -/
def earlyEnd : Fault := ⟨.other, "early eof"⟩

/-- A transfer that was not over in time. -/
def late : Fault := ⟨.timedOut, "deadline has elapsed"⟩

/-- What a failed transfer means for an exchange with a server. -/
def error (server : SocketAddress) (fault : Fault) : Error :=
  match fault.kind with
  | .refused => .connectionRefused (toString server)
  | .timedOut => .timeout (toString server)
  | .other => .inputOutput (toString server) fault.text

end Fault

/-- The answers of an operating system to a program that makes sockets. -/
structure Host where
  /-- Why a datagram socket cannot be connected to an address. -/
  connectFault : SocketAddress → Option OsError
  /-- Why a listener cannot be bound to an address. -/
  bindFault : Transport → SocketAddress → Option OsError
  /-- The port of a listener that is bound to port zero. -/
  freePort : UInt16 := 49152

namespace Host

/-- The address of a listener that is bound to an address. It tells an interface only where the
address means something on one interface only. -/
def localAddress (host : Host) (address : SocketAddress) : SocketAddress :=
  let address :=
    match address with
    | .v6 ip _ port => if ip.needsInterface then address else .v6 ip 0 port
    | .v4 _ _ => address
  if address.port = 0 then address.withPort host.freePort else address

/-- The address of an IPv6 socket address, unless it stands for an IPv4 address. -/
def properIPv6? : SocketAddress → Option (IPv6 × UInt32)
  | .v4 _ _ => none
  | .v6 ip scope _ => if ip.mappedIPv4?.isSome then none else some (ip, scope)

/-- Connecting without an interface: there is no route to an IPv4 address, and no address to send
from to an IPv6 address. Addresses that mean something on one interface only have to name it. -/
def isolatedConnect (address : SocketAddress) : Option OsError :=
  match properIPv6? address with
  | none => some .networkUnreachable
  | some (ip, scope) =>
    if ip.needsInterface && scope == 0 then some .invalidArgument else some .addressNotAvailable

/-- The number of the interface that every machine has. -/
abbrev loopbackScope : UInt32 := 1

/-- Binding without an interface that is up: every IPv4 address will do, of the IPv6 addresses only
the one that stands for all. Connections are never made with a multicast address. -/
def isolatedBind (transport : Transport) (address : SocketAddress) : Option OsError :=
  match properIPv6? address with
  | none => none
  | some (ip, scope) =>
    if ip.isUnspecified then none
    else if ip.isMulticast && transport = .tcp then some .invalidArgument
    else if ip.needsInterface && scope == 0 then some .invalidArgument
    else if ip.needsInterface && scope != loopbackScope then some .noSuchDevice
    else if ip.isMulticast then none
    else some .addressNotAvailable

/-- A machine none of whose interfaces is up. -/
def isolated : Host where
  connectFault := isolatedConnect
  bindFault := isolatedBind

/-- A machine where every address can be connected to and bound. -/
def open_ : Host where
  connectFault := fun _ => none
  bindFault := fun _ _ => none

/-- Whether a listener on one address leaves no room for one on the other. An address that stands
for all of its kind is in the way of each of them, and the IPv6 one is in the way of every
address. -/
def clash : SocketAddress → SocketAddress → Bool
  | .v4 x p, .v4 y q => p == q && (x == y || x.isUnspecified || y.isUnspecified)
  | .v4 x p, .v6 y _ q => p == q && (y.isUnspecified || y.mappedIPv4? == some x)
  | .v6 x _ p, .v4 y q => p == q && (x.isUnspecified || x.mappedIPv4? == some y)
  | .v6 x _ p, .v6 y _ q => p == q && (x == y || x.isUnspecified || y.isUnspecified)

/-- The same machine, where some addresses are taken. -/
def occupying (host : Host) (taken : List (Transport × SocketAddress)) : Host :=
  { host with
    bindFault := fun transport address =>
      match host.bindFault transport address with
      | some error => some error
      | none =>
        if taken.any fun other => other.1 = transport && clash other.2 address then
          some .addressInUse
        else none }

end Host

end DnsForwarder.Net
