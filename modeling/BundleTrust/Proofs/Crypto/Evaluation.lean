import BundleTrust.Crypto.Ecdsa

/-!
# Keys and signatures on concrete numbers

The bits of a number are listed with an append for each bit, which takes many steps where a
proof evaluates them.  Listed in one pass they are the same (`P256.bits_eq`), and so is all
that is computed with them: inverses and multiples of points, and from these public keys
(`PrivateKey.publicKey?_eq`), verdicts (`PublicKey.verifies_eq`) and signatures
(`PrivateKey.sign?_eq_some`).
-/

namespace BundleTrust
namespace Crypto

namespace P256

/-- The lowest bits of a number, most significant bit first, in front of other ones. -/
def bitsOnto : (width value : Nat) → List Bool → List Bool
  | 0, _, rest => rest
  | width + 1, value, rest => bitsOnto width (value / 2) ((value % 2 == 1) :: rest)

theorem bitsOnto_eq (width value : Nat) (rest : List Bool) :
    bitsOnto width value rest = bits width value ++ rest := by
  induction width generalizing value rest with
  | zero => rfl
  | succ width ih => rw [bitsOnto, ih, bits, List.append_assoc, List.singleton_append]

theorem bits_eq (width value : Nat) : bits width value = bitsOnto width value [] := by
  rw [bitsOnto_eq, List.append_nil]

/-- An inverse modulo a prime, in one pass over the exponent. -/
def inverseInOnePass (modulus value : Nat) : Nat :=
  (bitsOnto 256 (modulus - 2) []).foldl
    (fun result bit =>
      let square := result * result % modulus
      if bit then square * value % modulus else square)
    1

theorem inverse_eq (modulus value : Nat) :
    inverse modulus value = inverseInOnePass modulus value := by
  rw [inverse, power, bits_eq]
  rfl

namespace Point

/-- A multiple of a point, in one pass over the factor. -/
def timesInOnePass (factor : Nat) (point : Point) : Point :=
  (bitsOnto 256 factor []).foldl
    (fun result bit =>
      let double := result.plus result
      if bit then double.plus point else double)
    infinity

theorem times_eq (factor : Nat) (point : Point) :
    point.times factor = point.timesInOnePass factor := by
  rw [times, bits_eq]
  rfl

/-- The affine coordinates of a point other than infinity, in one pass. -/
def affineInOnePass? (point : Point) : Option (Nat × Nat) :=
  if point.z = 0 then none
  else
    let scale := inverseInOnePass prime point.z
    some (mul point.x scale, mul point.y scale)

theorem affine?_eq (point : Point) : point.affine? = point.affineInOnePass? := by
  rw [affine?, inverse_eq]
  rfl

end Point
end P256

open P256

/-- The public key that belongs to a private key, in one pass. -/
theorem PrivateKey.publicKey?_eq (key : PrivateKey) :
    key.publicKey? = (generator.timesInOnePass key.scalar).affineInOnePass?.bind
      fun (x, y) => PublicKey.ofAffine? x y := by
  rw [publicKey?, Point.times_eq, Point.affine?_eq]

/-- A verdict on a signature, in one pass over every number. -/
def PublicKey.verifiesInOnePass
    (key : PublicKey)
    (digest : List UInt8)
    (signature : EcdsaSignature) :
    Bool :=
  isScalar signature.r && isScalar signature.s &&
    (let scale := inverseInOnePass order signature.s
     let first := natOfOctets digest * scale % order
     let second := signature.r * scale % order
     let sum := (generator.timesInOnePass first).plus (key.point.timesInOnePass second)
     sum.affineInOnePass?.any fun (x, _) => x % order == signature.r)

theorem PublicKey.verifies_eq
    (key : PublicKey)
    (digest : List UInt8)
    (signature : EcdsaSignature) :
    key.verifies digest signature = key.verifiesInOnePass digest signature := by
  simp only [verifies, verifiesInOnePass, inverse_eq, Point.times_eq, Point.affine?_eq]
  generalize P256.Point.affineInOnePass? _ = coordinates
  cases coordinates <;> rfl

/-- The signature of a digest with a nonce, in one pass over every number. -/
def signWithInOnePass? (key : PrivateKey) (digest : List UInt8) (nonce : Nat) :
    Option EcdsaSignature :=
  (generator.timesInOnePass nonce).affineInOnePass?.bind fun (x, _) =>
    let r := x % order
    let s := inverseInOnePass order nonce * (natOfOctets digest + r * key.scalar) % order
    if isScalar r && isScalar s then some ⟨r, s⟩ else none

/-- A nonce that a digest is signed with at the first attempt. -/
structure FirstNonce (key : PrivateKey) (digest : List UInt8) where
  /-- The number. -/
  value : Nat
  /-- It is drawn first. -/
  drawn : natOfOctets (hmac (NonceState.start key digest).key
    (NonceState.start key digest).value) = value
  /-- It is in range. -/
  inRange : isScalar value = true

theorem PrivateKey.sign?_eq_some
    {key : PrivateKey}
    {digest : List UInt8}
    {signature : EcdsaSignature}
    (nonce : FirstNonce key digest)
    (signed : signWithInOnePass? key digest nonce.value = some signature) :
    key.sign? digest = some signature := by
  have first : signWith? key digest nonce.value = some signature := by
    rw [← signed, signWith?, signWithInOnePass?, Point.times_eq, Point.affine?_eq, inverse_eq]
  simp only [sign?, nonceAttempts, signFrom?, nonce.drawn, nonce.inRange, ↓reduceIte, first]

end Crypto
end BundleTrust
