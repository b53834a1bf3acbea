import DnsForwarder.Message.Name

/-!
# Names as text

Labels are written one after the other, each followed by a dot; the root is a dot. Letters, digits
and underscores stand for themselves, a hyphen does unless it starts its label, a star does only if
it starts its label. Every other visible ASCII character has a backslash in front, and every other
octet is a backslash and three octal digits.
-/

namespace DnsForwarder.Name

/-- Letters, digits and the underscore. -/
def isPlain (octet : UInt8) : Bool :=
  (0x30 ≤ octet && octet ≤ 0x39) || (0x41 ≤ octet && octet ≤ 0x5A) ||
    (0x61 ≤ octet && octet ≤ 0x7A) || octet == 0x5F

/-- Three octal digits. -/
def octal (octet : UInt8) : List Char :=
  let digit (n : Nat) := Char.ofNat (0x30 + n % 8)
  let n := octet.toNat
  [digit (n / 64), digit (n / 8), digit n]

/-- The backslash. -/
def escape : Char := Char.ofNat 0x5C

/-- An octet as text; `first` says that it starts its label. -/
def octetText (first : Bool) (octet : UInt8) : List Char :=
  let self := Char.ofNat octet.toNat
  if isPlain octet || (octet == 0x2D && !first) || (octet == 0x2A && first) then [self]
  else if 0x21 ≤ octet && octet ≤ 0x7E then [escape, self]
  else escape :: octal octet

/-- A label as text. -/
def labelText : Bytes → List Char
  | [] => []
  | first :: rest => octetText true first ++ rest.flatMap (octetText false)

/-- The characters of a name. -/
def text (name : Name) : List Char :=
  if name.isRoot then ['.'] else name.labels.flatMap fun label => labelText label ++ ['.']

instance : ToString Name := ⟨fun name => String.ofList name.text⟩

end DnsForwarder.Name
