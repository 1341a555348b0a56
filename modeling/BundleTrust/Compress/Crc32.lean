/-!
# CRC-32

The checksum of ISO 3309 that ends compressed files, with reflected bits.
-/

namespace BundleTrust
namespace Compress

/-- The reflected polynomial of the checksum. -/
def crcPolynomial : Nat := 0xedb88320

/-- Divide a number of bits out of a remainder. -/
def crcShift : (bits : Nat) → (remainder : Nat) → Nat
  | 0, remainder => remainder
  | bits + 1, remainder =>
      crcShift bits
        (if remainder % 2 = 1 then (remainder / 2) ^^^ crcPolynomial else remainder / 2)

/-- The checksum of octets. -/
def crc32 (octets : List UInt8) : Nat :=
  octets.foldl (fun remainder octet => crcShift 8 (remainder ^^^ octet.toNat)) 0xffffffff ^^^
    0xffffffff

end Compress
end BundleTrust
