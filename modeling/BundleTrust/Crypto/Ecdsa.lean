import BundleTrust.Crypto.Hmac
import BundleTrust.Crypto.P256

/-!
# Signatures on P-256

ECDSA over digests of thirty-two octets.  The nonce follows from the key and the digest by
the generator of RFC 6979, so that signing twice gives one signature.
-/

namespace BundleTrust
namespace Crypto

/-- A private key: a number from one to below the order of the group. -/
structure PrivateKey where
  /-- The number. -/
  scalar : Nat
  /-- It is not zero. -/
  positive : 0 < scalar
  /-- It is below the order. -/
  below : scalar < P256.order
  deriving DecidableEq, Repr

/-- A public key: affine coordinates of a point of the curve. -/
structure PublicKey where
  /-- The first coordinate. -/
  x : Nat
  /-- The second coordinate. -/
  y : Nat
  /-- They are those of a point. -/
  onCurve : P256.isOnCurve x y = true
  deriving DecidableEq, Repr

/-- A signature: two numbers from one to below the order of the group. -/
structure EcdsaSignature where
  /-- The first number, which comes from the nonce's point. -/
  r : Nat
  /-- The second number. -/
  s : Nat
  deriving DecidableEq, Repr

/-- Whether a number is from one to below the order of the group. -/
def isScalar (value : Nat) : Bool :=
  0 < value && value < P256.order

/-- The private key of a number in range. -/
def PrivateKey.ofScalar? (scalar : Nat) : Option PrivateKey :=
  if bounds : 0 < scalar ∧ scalar < P256.order then some ⟨scalar, bounds.1, bounds.2⟩ else none

/-- The public key of affine coordinates. -/
def PublicKey.ofAffine? (x y : Nat) : Option PublicKey :=
  if onCurve : P256.isOnCurve x y = true then some ⟨x, y, onCurve⟩ else none

/-- The point of a public key. -/
def PublicKey.point (key : PublicKey) : P256.Point := ⟨key.x, key.y, 1⟩

/-- The public key that belongs to a private key. -/
def PrivateKey.publicKey? (key : PrivateKey) : Option PublicKey :=
  (P256.generator.times key.scalar).affine?.bind fun (x, y) => PublicKey.ofAffine? x y

/-- The state of the nonce generator. -/
structure NonceState where
  /-- The key of the keyed hash. -/
  key : List UInt8
  /-- The value that is hashed. -/
  value : List UInt8
  deriving DecidableEq, Repr

namespace NonceState

/-- Mix octets into the state. -/
def mix (separator : UInt8) (input : List UInt8) (state : NonceState) : NonceState :=
  let key := hmac state.key (state.value ++ separator :: input)
  ⟨key, hmac key state.value⟩

/-- The state for a private key and a digest. -/
def start (key : PrivateKey) (digest : List UInt8) : NonceState :=
  let input :=
    octetsOfNat 32 key.scalar ++ octetsOfNat 32 (natOfOctets digest % P256.order)
  ((NonceState.mk (List.replicate 32 0) (List.replicate 32 1)).mix 0 input).mix 1 input

end NonceState

/-- The signature of a digest with a nonce, unless the nonce does not suit. -/
def signWith? (key : PrivateKey) (digest : List UInt8) (nonce : Nat) : Option EcdsaSignature :=
  (P256.generator.times nonce).affine?.bind fun (x, _) =>
    let r := x % P256.order
    let s :=
      P256.inverse P256.order nonce * (natOfOctets digest + r * key.scalar) % P256.order
    if isScalar r && isScalar s then some ⟨r, s⟩ else none

/-- Sign with the first nonce that suits. -/
def signFrom? (key : PrivateKey) (digest : List UInt8) :
    (attempts : Nat) → NonceState → Option EcdsaSignature
  | 0, _ => none
  | attempts + 1, state =>
      let value := hmac state.key state.value
      let nonce := natOfOctets value
      let signature := if isScalar nonce then signWith? key digest nonce else none
      match signature with
      | some signature => some signature
      | none => signFrom? key digest attempts ((NonceState.mk state.key value).mix 0 [])

/-- The number of nonces tried; one is refused once in about four thousand million. -/
def nonceAttempts : Nat := 64

/-- Sign a digest. -/
def PrivateKey.sign? (key : PrivateKey) (digest : List UInt8) : Option EcdsaSignature :=
  signFrom? key digest nonceAttempts (NonceState.start key digest)

/-- Whether a signature of a digest was made with the private key that belongs to a public
key. -/
def PublicKey.verifies
    (key : PublicKey)
    (digest : List UInt8)
    (signature : EcdsaSignature) :
    Bool :=
  isScalar signature.r && isScalar signature.s &&
    (let scale := P256.inverse P256.order signature.s
     let first := natOfOctets digest * scale % P256.order
     let second := signature.r * scale % P256.order
     match ((P256.generator.times first).plus (key.point.times second)).affine? with
     | some (x, _) => x % P256.order == signature.r
     | none => false)

end Crypto
end BundleTrust
