import DnsForwarder.Net.Address
import DnsForwarder.Text.Digit

/-!
# Reading addresses

A reader takes what it can from the front of a text and gives it with the text after it. Readers
take the longest number they can; an address is read only if nothing is left. Octets of IPv4
addresses have no leading zeros, groups of IPv6 addresses have up to four digits, ports and
interface numbers may have any number of leading zeros.
-/

namespace DnsForwarder.Net

/-- The number that digits spell. -/
def ofDigits (radix : Nat) (digits : List Char) : Nat :=
  digits.foldl (fun acc c => acc * radix + (Text.digit? radix c).getD 0) 0

/-- Which numbers may stand at a place. -/
structure NumberForm where
  radix : Nat
  /-- The first number that is too large. -/
  bound : Nat
  maxDigits : Option Nat
  leadingZeros : Bool

/-- An octet of an IPv4 address. -/
def NumberForm.octet : NumberForm := ⟨10, UInt8.size, some 3, false⟩

/-- A group of an IPv6 address. -/
def NumberForm.group : NumberForm := ⟨16, UInt16.size, some 4, true⟩

/-- A port. -/
def NumberForm.port : NumberForm := ⟨10, UInt16.size, none, true⟩

/-- The number of an interface. -/
def NumberForm.scope : NumberForm := ⟨10, UInt32.size, none, true⟩

/-- Reads all the digits at the front of a text, if they have the form. -/
def readNumber (form : NumberForm) (text : List Char) : Option (Nat × List Char) :=
  let digits := text.takeWhile fun c => (Text.digit? form.radix c).isSome
  let rest := text.dropWhile fun c => (Text.digit? form.radix c).isSome
  let value := ofDigits form.radix digits
  if digits.isEmpty then none
  else if form.maxDigits.any (· < digits.length) then none
  else if !form.leadingZeros && digits.head? == some '0' && 1 < digits.length then none
  else if form.bound ≤ value then none
  else some (value, rest)

/-- Reads one given character. -/
def readChar (c : Char) : List Char → Option (Unit × List Char)
  | x :: rest => if x = c then some ((), rest) else none
  | [] => none

namespace IPv4

/-- Reads four octets with points between them. -/
def read (text : List Char) : Option (IPv4 × List Char) := do
  let (a, rest) ← readNumber .octet text
  let (_, rest) ← readChar '.' rest
  let (b, rest) ← readNumber .octet rest
  let (_, rest) ← readChar '.' rest
  let (c, rest) ← readNumber .octet rest
  let (_, rest) ← readChar '.' rest
  let (d, rest) ← readNumber .octet rest
  some (⟨UInt8.ofNat a, UInt8.ofNat b, UInt8.ofNat c, UInt8.ofNat d⟩, rest)

/-- The address that a whole text spells. -/
def ofText? (text : List Char) : Option IPv4 :=
  match read text with
  | some (ip, []) => some ip
  | _ => none

end IPv4

namespace IPv6

/-- Groups that were read, and whether an IPv4 address ended them. -/
structure Groups where
  groups : List UInt16
  embedded : Bool
  rest : List Char

/-- The colon that goes before every group but the first. -/
def readSeparator (first : Bool) (text : List Char) : Option (Unit × List Char) :=
  if first then some ((), text) else readChar ':' text

/-- Reads up to `room` groups with colons between them. An IPv4 address may fill the last two. -/
def readGroups : (room : Nat) → (first : Bool) → List Char → Groups
  | 0, _, text => ⟨[], false, text⟩
  | room + 1, first, text =>
    let embedded := do
      let (_, rest) ← readSeparator first text
      IPv4.read rest
    match if room = 0 then none else embedded with
    | some (ip, rest) => ⟨ip.groups, true, rest⟩
    | none =>
      let group := do
        let (_, rest) ← readSeparator first text
        readNumber .group rest
      match group with
      | some (value, rest) =>
        let tail := readGroups room false rest
        ⟨UInt16.ofNat value :: tail.groups, tail.embedded, tail.rest⟩
      | none => ⟨[], false, text⟩

/-- Reads eight groups, or fewer with `::` in the place of at least one zero group. An IPv4 address
may stand at the end, not before `::`. -/
def read (text : List Char) : Option (IPv6 × List Char) :=
  let head := readGroups 8 true text
  if head.groups.length = 8 then
    (ofGroups? head.groups).map (·, head.rest)
  else if head.embedded then none
  else
    match head.rest with
    | ':' :: ':' :: rest =>
      let tail := readGroups (7 - head.groups.length) true rest
      let zeros := List.replicate (8 - head.groups.length - tail.groups.length) 0
      (ofGroups? (head.groups ++ zeros ++ tail.groups)).map (·, tail.rest)
    | _ => none

/-- The address that a whole text spells. -/
def ofText? (text : List Char) : Option IPv6 :=
  match read text with
  | some (ip, []) => some ip
  | _ => none

end IPv6

namespace SocketAddress

/-- Reads a colon and a port. -/
def readPort (text : List Char) : Option (UInt16 × List Char) := do
  let (_, rest) ← readChar ':' text
  let (port, rest) ← readNumber .port rest
  some (UInt16.ofNat port, rest)

/-- Reads `%` and the number of an interface; without them the number is zero. -/
def readScope (text : List Char) : UInt32 × List Char :=
  let scope := do
    let (_, rest) ← readChar '%' text
    readNumber .scope rest
  match scope with
  | some (value, rest) => (UInt32.ofNat value, rest)
  | none => (0, text)

/-- Reads `a.b.c.d:port`. -/
def readV4 (text : List Char) : Option (SocketAddress × List Char) := do
  let (ip, rest) ← IPv4.read text
  let (port, rest) ← readPort rest
  some (.v4 ip port, rest)

/-- Reads `[address]:port` or `[address%interface]:port`. -/
def readV6 (text : List Char) : Option (SocketAddress × List Char) := do
  let (_, rest) ← readChar '[' text
  let (ip, rest) ← IPv6.read rest
  let (scope, rest) := readScope rest
  let (_, rest) ← readChar ']' rest
  let (port, rest) ← readPort rest
  some (.v6 ip scope port, rest)

/-- The socket address that a whole text spells. -/
def ofText? (text : List Char) : Option SocketAddress :=
  match (readV4 text).orElse fun _ => readV6 text with
  | some (address, []) => some address
  | _ => none

/-- The socket address that a string spells. -/
def ofString? (text : String) : Option SocketAddress := ofText? text.toList

end SocketAddress

/-- The text of an address and a port. An address that has a colon and no bracket in front is taken
for IPv6 and put into brackets. -/
def endpoint (address : String) (port : UInt16) : String :=
  if address.toList.contains ':' && address.toList.head? != some '[' then
    s!"[{address}]:{port.toNat}"
  else
    s!"{address}:{port.toNat}"

end DnsForwarder.Net
