import DnsForwarder.Net.Address

/-!
# Addresses as text

IPv4 addresses are four decimal numbers. IPv6 addresses are lowercase hexadecimal groups without
leading zeros, where the first longest run of two or more zero groups is written `::` and an address
that carries an IPv4 address shows it in decimal (RFC 5952).
-/

namespace DnsForwarder.Net

/-- A number in decimal. -/
def decimal (n : Nat) : List Char := Nat.toDigits 10 n

namespace IPv4

/-- Four decimal numbers with points between them. -/
def text (ip : IPv4) : List Char :=
  decimal ip.a.toNat ++ '.' :: decimal ip.b.toNat ++ '.' :: decimal ip.c.toNat ++
    '.' :: decimal ip.d.toNat

instance : ToString IPv4 := ⟨fun ip => String.ofList ip.text⟩

end IPv4

namespace IPv6

/-- How many zero groups a list starts with. -/
def zeroRun (groups : List UInt16) : Nat := (groups.takeWhile (· == 0)).length

/-- Where the first longest run of zero groups starts, and its length. -/
def longestZeroRun : List UInt16 → Nat × Nat
  | [] => (0, 0)
  | g :: rest =>
    let here := zeroRun (g :: rest)
    let (start, length) := longestZeroRun rest
    if length ≤ here then (0, here) else (start + 1, length)

/-- Groups in hexadecimal with colons between them. -/
def groupsText (groups : List UInt16) : List Char :=
  (groups.map fun g => Nat.toDigits 16 g.toNat).intersperse [':'] |>.flatten

/-- The written form of an address. -/
def text (ip : IPv6) : List Char :=
  match ip.mappedIPv4? with
  | some v4 => "::ffff:".toList ++ v4.text
  | none =>
    let (start, length) := longestZeroRun ip.groups
    if 1 < length then
      groupsText (ip.groups.take start) ++ ':' :: ':' ::
        groupsText (ip.groups.drop (start + length))
    else
      groupsText ip.groups

instance : ToString IPv6 := ⟨fun ip => String.ofList ip.text⟩

end IPv6

namespace SocketAddress

/-- `address:port`, with brackets around an IPv6 address and its interface, if any, after `%`. -/
def text : SocketAddress → List Char
  | .v4 ip port => ip.text ++ ':' :: decimal port.toNat
  | .v6 ip scope port =>
    let interface := if scope = 0 then [] else '%' :: decimal scope.toNat
    '[' :: ip.text ++ interface ++ ']' :: ':' :: decimal port.toNat

instance : ToString SocketAddress := ⟨fun address => String.ofList address.text⟩

end SocketAddress

end DnsForwarder.Net
