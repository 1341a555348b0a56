import BundleTrust.Crypto.Octets

/-!
# DER

Elements of the distinguished encoding rules: a tag octet, a length in its only minimal
form, and the contents.
-/

namespace BundleTrust
namespace Crypto
namespace Der

/-- The tag of a whole number. -/
def integerTag : UInt8 := 0x02

/-- The tag of a bit string. -/
def bitStringTag : UInt8 := 0x03

/-- The tag of an octet string. -/
def octetStringTag : UInt8 := 0x04

/-- The tag of an object identifier. -/
def identifierTag : UInt8 := 0x06

/-- The tag of a sequence. -/
def sequenceTag : UInt8 := 0x30

/-- The number of octets that a number takes; zero takes none. -/
def octetCount : (width value : Nat) → Nat
  | 0, _ => 0
  | width + 1, value => if value = 0 then 0 else octetCount width (value / 256) + 1

/-- A length. -/
def encodeLength (length : Nat) : List UInt8 :=
  if length < 0x80 then [UInt8.ofNat length]
  else
    let width := octetCount 4 length
    UInt8.ofNat (0x80 + width) :: octetsOfNat width length

/-- An element. -/
def encode (tag : UInt8) (contents : List UInt8) : List UInt8 :=
  tag :: encodeLength contents.length ++ contents

/-- Read a length of up to four octets beyond the first. -/
def readLength? : List UInt8 → Option (Nat × List UInt8)
  | [] => none
  | first :: rest =>
      if first < 0x80 then some (first.toNat, rest)
      else
        let width := first.toNat - 0x80
        let octets := rest.take width
        let length := natOfOctets octets
        if width = 0 || 4 < width || octets.length < width then none
        else if length < 0x80 || octetCount 4 length ≠ width then none
        else some (length, rest.drop width)

/-- Read an element with a given tag at the front: its contents and what follows it. -/
def read? (tag : UInt8) : List UInt8 → Option (List UInt8 × List UInt8)
  | [] => none
  | first :: rest =>
      if first = tag then
        (readLength? rest).bind fun (length, rest) =>
          if rest.length < length then none else some (rest.take length, rest.drop length)
      else none

/-- Read an element with a given tag that nothing follows. -/
def readWhole? (tag : UInt8) (source : List UInt8) : Option (List UInt8) :=
  match read? tag source with
  | some (contents, []) => some contents
  | _ => none

/-- Whether an element with a given tag comes next. -/
def comesNext (tag : UInt8) (source : List UInt8) : Bool :=
  source.head? == some tag

/-- A natural number as the contents of a whole number: no superfluous zero octets, and one
where the first bit would be taken for a sign. -/
def naturalContents (value : Nat) : List UInt8 :=
  let octets := octetsOfNat (octetCount 64 value) value
  match octets with
  | [] => [0]
  | first :: _ => if first < 0x80 then octets else 0 :: octets

/-- A natural number as an element. -/
def encodeNatural (value : Nat) : List UInt8 :=
  encode integerTag (naturalContents value)

/-- The natural number that contents denote, in its only form. -/
def naturalOfContents? : List UInt8 → Option Nat
  | [] => none
  | [0] => some 0
  | 0 :: second :: rest => if second < 0x80 then none else some (natOfOctets (second :: rest))
  | first :: rest => if first < 0x80 then some (natOfOctets (first :: rest)) else none

/-- Read a natural number. -/
def readNatural? (source : List UInt8) : Option (Nat × List UInt8) :=
  (read? integerTag source).bind fun (contents, rest) =>
    (naturalOfContents? contents).map fun value => (value, rest)

/-- Whole octets as a bit string. -/
def encodeBitString (octets : List UInt8) : List UInt8 :=
  encode bitStringTag (0 :: octets)

/-- The octets of a bit string that leaves no bits of its last octet unused. -/
def octetsOfBitString? : List UInt8 → Option (List UInt8)
  | 0 :: octets => some octets
  | _ => none

end Der
end Crypto
end BundleTrust
