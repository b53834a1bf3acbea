/-!
# Octet strings

Messages, datagrams and frames are lists of octets. Words of two and four octets are written most
significant octet first.
-/

namespace DnsForwarder

/-- A string of octets, in the order they travel. -/
abbrev Bytes := List UInt8

namespace Bytes

/-- A word of two octets, most significant first. -/
def ofUInt16 (word : UInt16) : Bytes :=
  [UInt8.ofNat (word.toNat / 256), UInt8.ofNat word.toNat]

/-- A word of four octets, most significant first. -/
def ofUInt32 (word : UInt32) : Bytes :=
  [UInt8.ofNat (word.toNat / 16777216), UInt8.ofNat (word.toNat / 65536),
    UInt8.ofNat (word.toNat / 256), UInt8.ofNat word.toNat]

/-- The word that two octets spell. -/
def toUInt16 (high low : UInt8) : UInt16 :=
  UInt16.ofNat (high.toNat * 256 + low.toNat)

/-- The word that four octets spell. -/
def toUInt32 (a b c d : UInt8) : UInt32 :=
  UInt32.ofNat (a.toNat * 16777216 + b.toNat * 65536 + c.toNat * 256 + d.toNat)

/-- A word has two octets. -/
@[simp] theorem length_ofUInt16 (word : UInt16) : (ofUInt16 word).length = 2 := rfl

/-- A double word has four octets. -/
@[simp] theorem length_ofUInt32 (word : UInt32) : (ofUInt32 word).length = 4 := rfl

/-- Reading the two octets of a word gives the word. -/
theorem toUInt16_ofUInt16 (word : UInt16) :
    toUInt16 (UInt8.ofNat (word.toNat / 256)) (UInt8.ofNat word.toNat) = word := by
  apply UInt16.toNat_inj.mp
  have := word.toNat_lt
  simp only [toUInt16, UInt8.toNat_ofNat', UInt16.toNat_ofNat']
  omega

/-- Writing the word that two octets spell gives the octets. -/
theorem ofUInt16_toUInt16 (high low : UInt8) : ofUInt16 (toUInt16 high low) = [high, low] := by
  have spelled : (toUInt16 high low).toNat = high.toNat * 256 + low.toNat := by
    have := high.toNat_lt
    have := low.toNat_lt
    rw [toUInt16, UInt16.toNat_ofNat']
    omega
  have upper : UInt8.ofNat ((high.toNat * 256 + low.toNat) / 256) = high := by
    apply UInt8.toNat_inj.mp
    have := high.toNat_lt
    have := low.toNat_lt
    rw [UInt8.toNat_ofNat']
    omega
  have lower : UInt8.ofNat (high.toNat * 256 + low.toNat) = low := by
    apply UInt8.toNat_inj.mp
    have := low.toNat_lt
    rw [UInt8.toNat_ofNat']
    omega
  rw [ofUInt16, spelled, upper, lower]

/-- Reading the four octets of a word gives the word. -/
theorem toUInt32_ofUInt32 (word : UInt32) :
    toUInt32 (UInt8.ofNat (word.toNat / 16777216)) (UInt8.ofNat (word.toNat / 65536))
      (UInt8.ofNat (word.toNat / 256)) (UInt8.ofNat word.toNat) = word := by
  apply UInt32.toNat_inj.mp
  have := word.toNat_lt
  simp only [toUInt32, UInt8.toNat_ofNat', UInt32.toNat_ofNat']
  omega

end Bytes

end DnsForwarder
