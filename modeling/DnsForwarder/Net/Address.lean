/-!
# Internet addresses

IPv4 and IPv6 addresses, and the socket addresses made of one of them and a port. Their written
forms are in `Net.Address.Printer` and `Net.Address.Reader`.
-/

namespace DnsForwarder.Net

/-- Four octets. -/
structure IPv4 where
  a : UInt8
  b : UInt8
  c : UInt8
  d : UInt8
deriving DecidableEq, Repr, Inhabited

/-- Eight groups of sixteen bits. -/
structure IPv6 where
  groups : List UInt16
  length_groups : groups.length = 8
deriving DecidableEq, Repr

/-- An address with a port; an IPv6 address may name the interface it is meant on. -/
inductive SocketAddress where
  | v4 (ip : IPv4) (port : UInt16)
  | v6 (ip : IPv6) (scope : UInt32) (port : UInt16)
deriving DecidableEq, Repr

namespace IPv4

/-- The octets in the order they travel. -/
def octets (ip : IPv4) : List UInt8 := [ip.a, ip.b, ip.c, ip.d]

/-- `127.0.0.1`. -/
def loopback : IPv4 := ⟨127, 0, 0, 1⟩

/-- `0.0.0.0`, which stands for every IPv4 address of the machine. -/
def isUnspecified (ip : IPv4) : Bool := ip.octets.all (· == 0)

/-- The two groups that an IPv4 address fills at the end of an IPv6 address. -/
def groups (ip : IPv4) : List UInt16 :=
  [UInt16.ofNat (ip.a.toNat * 256 + ip.b.toNat), UInt16.ofNat (ip.c.toNat * 256 + ip.d.toNat)]

/-- The IPv4 address that two groups spell. -/
def ofGroups (high low : UInt16) : IPv4 :=
  ⟨UInt8.ofNat (high.toNat / 256), UInt8.ofNat high.toNat,
    UInt8.ofNat (low.toNat / 256), UInt8.ofNat low.toNat⟩

end IPv4

namespace IPv6

instance : Inhabited IPv6 := ⟨⟨List.replicate 8 0, rfl⟩⟩

/-- Eight groups make an address. -/
def ofGroups? (groups : List UInt16) : Option IPv6 :=
  if h : groups.length = 8 then some ⟨groups, h⟩ else none

/-- The IPv4 address inside an address of the form `::ffff:a.b.c.d`. -/
def mappedIPv4? (ip : IPv6) : Option IPv4 :=
  match ip.groups with
  | [0, 0, 0, 0, 0, 0xffff, high, low] => some (IPv4.ofGroups high low)
  | _ => none

/-- `::`, which stands for every address of the machine. -/
def isUnspecified (ip : IPv6) : Bool := ip.groups.all (· == 0)

/-- `fe80::/10`. -/
def isLinkLocal (ip : IPv6) : Bool :=
  match ip.groups with
  | first :: _ => first.toNat / 64 == 0xfe80 / 64
  | [] => false

/-- `ff00::/8`. -/
def isMulticast (ip : IPv6) : Bool :=
  match ip.groups with
  | first :: _ => first.toNat / 256 == 0xff
  | [] => false

/-- Whether an address means something on one interface only: those for a link and the multicast
addresses for an interface or a link. -/
def needsInterface (ip : IPv6) : Bool :=
  ip.isLinkLocal ||
    match ip.groups with
    | first :: _ => ip.isMulticast && (first.toNat % 16 == 1 || first.toNat % 16 == 2)
    | [] => false

/-- The octets in the order they travel. -/
def octets (ip : IPv6) : List UInt8 :=
  ip.groups.flatMap fun g => [UInt8.ofNat (g.toNat / 256), UInt8.ofNat g.toNat]

end IPv6

namespace SocketAddress

/-- The port number. -/
def port : SocketAddress → UInt16
  | .v4 _ port => port
  | .v6 _ _ port => port

/-- The same address with another port. -/
def withPort (address : SocketAddress) (port : UInt16) : SocketAddress :=
  match address with
  | .v4 ip _ => .v4 ip port
  | .v6 ip scope _ => .v6 ip scope port

end SocketAddress

end DnsForwarder.Net
