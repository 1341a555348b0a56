/-!
# Octets as numbers

Numbers written with the most significant octet first, with a fixed number of octets.
-/

namespace BundleTrust
namespace Crypto

/-- The number that octets denote, most significant octet first. -/
def natOfOctets (octets : List UInt8) : Nat :=
  octets.foldl (fun value octet => 256 * value + octet.toNat) 0

/-- The lowest octets of a number, most significant octet first. -/
def octetsOfNat : (width : Nat) → (value : Nat) → List UInt8
  | 0, _ => []
  | width + 1, value => octetsOfNat width (value / 256) ++ [UInt8.ofNat (value % 256)]

/-- A number is written with exactly the octets asked for. -/
@[simp] theorem length_octetsOfNat
    (width value : Nat) :
    (octetsOfNat width value).length = width := by
  induction width generalizing value with
  | zero => rfl
  | succ width ih => simp [octetsOfNat, ih]

end Crypto
end BundleTrust
