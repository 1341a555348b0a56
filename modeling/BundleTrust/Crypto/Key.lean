import BundleTrust.Crypto.Der
import BundleTrust.Crypto.Ecdsa
import BundleTrust.Crypto.Pem

/-!
# Keys and signatures in their encodings

Public keys as SubjectPublicKeyInfo, private keys as SEC 1 or PKCS #8 in PEM, and
signatures as a sequence of two numbers.
-/

namespace BundleTrust
namespace Crypto

/-- The identifier of keys on elliptic curves. -/
def ellipticKeyIdentifier : List UInt8 := [0x2a, 0x86, 0x48, 0xce, 0x3d, 0x02, 0x01]

/-- The identifier of the curve P-256. -/
def curveIdentifier : List UInt8 := [0x2a, 0x86, 0x48, 0xce, 0x3d, 0x03, 0x01, 0x07]

/-- The identifiers of the kind of key and of its curve, as a sequence. -/
def algorithm : List UInt8 :=
  Der.encode Der.sequenceTag
    (Der.encode Der.identifierTag ellipticKeyIdentifier ++
      Der.encode Der.identifierTag curveIdentifier)

namespace PublicKey

/-- A public key as an uncompressed point. -/
def toPoint (key : PublicKey) : List UInt8 :=
  0x04 :: octetsOfNat 32 key.x ++ octetsOfNat 32 key.y

/-- A public key as a compressed point. -/
def toCompressedPoint (key : PublicKey) : List UInt8 :=
  (if key.y % 2 = 1 then 0x03 else 0x02) :: octetsOfNat 32 key.x

/-- Read a point, compressed or not. -/
def ofPoint? : List UInt8 → Option PublicKey
  | [] => none
  | form :: coordinates =>
      if form = 0x04 && coordinates.length = 64 then
        ofAffine? (natOfOctets (coordinates.take 32)) (natOfOctets (coordinates.drop 32))
      else if (form = 0x02 || form = 0x03) && coordinates.length = 32 then
        (P256.ofFirst? (form = 0x03) (natOfOctets coordinates)).bind fun point =>
          ofAffine? point.x point.y
      else none

/-- A public key as SubjectPublicKeyInfo. -/
def toDer (key : PublicKey) : List UInt8 :=
  Der.encode Der.sequenceTag (algorithm ++ Der.encodeBitString key.toPoint)

/-- Read SubjectPublicKeyInfo. -/
def ofDer? (source : List UInt8) : Option PublicKey := do
  let contents ← Der.readWhole? Der.sequenceTag source
  let key ← if algorithm.isPrefixOf contents then some (contents.drop algorithm.length) else none
  (← Der.octetsOfBitString? (← Der.readWhole? Der.bitStringTag key)) |> ofPoint?

end PublicKey

namespace PrivateKey

/-- The least number of octets of a private number; leading zeros may be missing. -/
def leastWidth : Nat := 24

/-- The private key of a number written with up to thirty-two octets. -/
def ofOctets? (octets : List UInt8) : Option PrivateKey :=
  if leastWidth ≤ octets.length && octets.length ≤ 32 then ofScalar? (natOfOctets octets)
  else none

/-- The tag of the curve in a private key. -/
def curveTag : UInt8 := 0xa0

/-- The tag of the public key in a private key. -/
def publicKeyTag : UInt8 := 0xa1

/-- Whether octets are the public key that belongs to a private key. -/
def hasPublicPoint (key : PrivateKey) (point : List UInt8) : Bool :=
  match key.publicKey? with
  | some publicKey => point == publicKey.toPoint || point == publicKey.toCompressedPoint
  | none => false

/-- A private key in the form of SEC 1, with its curve and its public key. -/
def toDer (key : PrivateKey) : List UInt8 :=
  Der.encode Der.sequenceTag
    (Der.encodeNatural 1 ++ Der.encode Der.octetStringTag (octetsOfNat 32 key.scalar) ++
      Der.encode curveTag (Der.encode Der.identifierTag curveIdentifier) ++
      match key.publicKey? with
      | some publicKey => Der.encode publicKeyTag (Der.encodeBitString publicKey.toPoint)
      | none => [])

/-- Drop the curve of a private key, if it is there; it has to be P-256. -/
def dropCurve? (source : List UInt8) : Option (List UInt8) :=
  if Der.comesNext curveTag source then
    (Der.read? curveTag source).bind fun (contents, rest) =>
      if Der.readWhole? Der.identifierTag contents = some curveIdentifier then some rest
      else none
  else some source

/-- Read a private key in the form of SEC 1.  The curve and the public key may be missing;
where they are given, they have to be right. -/
def ofDer? (source : List UInt8) : Option PrivateKey := do
  let contents ← Der.readWhole? Der.sequenceTag source
  let (version, rest) ← Der.readNatural? contents
  if version ≠ 1 then none
  let (octets, rest) ← Der.read? Der.octetStringTag rest
  let rest ← dropCurve? rest
  let key ← ofOctets? octets
  if rest.isEmpty then some key
  else
    let contents ← Der.readWhole? publicKeyTag rest
    let point ← Der.octetsOfBitString? (← Der.readWhole? Der.bitStringTag contents)
    if key.hasPublicPoint point then some key else none

/-- The tag of attributes in PKCS #8. -/
def attributesTag : UInt8 := 0xa0

/-- The tag of the public key in the second version of PKCS #8. -/
def attachedKeyTag : UInt8 := 0x81

/-- Whether what follows the private key in PKCS #8 fits the version: attributes, and from
the second version on a public key. -/
def hasValidTail (version : Nat) (tail : List UInt8) : Bool :=
  let tail :=
    if Der.comesNext attributesTag tail then (Der.read? attributesTag tail).map Prod.snd
    else some tail
  match tail with
  | none => false
  | some tail =>
      if version = 0 then tail.isEmpty
      else
        match Der.readWhole? attachedKeyTag tail with
        | some contents => (Der.octetsOfBitString? contents).isSome
        | none => false

/-- Read a private key in the form of PKCS #8. -/
def ofWrappedDer? (source : List UInt8) : Option PrivateKey := do
  let contents ← Der.readWhole? Der.sequenceTag source
  let (version, rest) ← Der.readNatural? contents
  if 1 < version then none
  let rest ← if algorithm.isPrefixOf rest then some (rest.drop algorithm.length) else none
  let (inner, tail) ← Der.read? Der.octetStringTag rest
  if hasValidTail version tail then ofDer? inner else none

/-- The label of private keys in the form of SEC 1. -/
def label : String := "EC PRIVATE KEY"

/-- The label of private keys in the form of PKCS #8. -/
def wrappedLabel : String := "PRIVATE KEY"

/-- A private key in PEM. -/
def toPem (key : PrivateKey) : String :=
  Pem.encode label key.toDer

/-- Read a private key in PEM, in either form. -/
def ofPem? (source : String) : Option PrivateKey :=
  match (Pem.decode? label source).bind ofDer? with
  | some key => some key
  | none => (Pem.decode? wrappedLabel source).bind ofWrappedDer?

/-- The first of a list of candidates of thirty-two random octets that is a private key. -/
def ofRandom? (candidates : List (List UInt8)) : Option PrivateKey :=
  candidates.findSome? ofOctets?

end PrivateKey

namespace EcdsaSignature

/-- A signature as a sequence of two numbers. -/
def toDer (signature : EcdsaSignature) : List UInt8 :=
  Der.encode Der.sequenceTag (Der.encodeNatural signature.r ++ Der.encodeNatural signature.s)

/-- Read a signature; both numbers have to be from one to below the order. -/
def ofDer? (source : List UInt8) : Option EcdsaSignature := do
  let contents ← Der.readWhole? Der.sequenceTag source
  let (r, rest) ← Der.readNatural? contents
  let (s, rest) ← Der.readNatural? rest
  if rest.isEmpty && isScalar r && isScalar s then some ⟨r, s⟩ else none

end EcdsaSignature

end Crypto
end BundleTrust
