import BundleTrust.Crypto.Key
import BundleTrust.Signature.Error
import BundleTrust.Text.Blank

/-!
# Trust domains

A trust domain is the start of a family of annotation keys and the public key that
signatures under it are checked with.
-/

namespace BundleTrust

/-- The annotation that holds the signature under a domain. -/
def signatureAnnotationKey (domain : String) : String := domain ++ "/signature"

/-- The annotation that holds the excludes under a domain. -/
def excludesAnnotationKey (domain : String) : String := domain ++ "/excludes"

/-- The annotation that is kept for includes under a domain. -/
def includesAnnotationKey (domain : String) : String := domain ++ "/includes"

/-- Decode a public key: base64 of its encoding, with blanks around it. -/
def decodePublicKey (text : String) : Except SignatureError Crypto.PublicKey :=
  match Text.decodeBase64 (Text.octets (Text.trim text)) with
  | .error defect => .error (.publicKeyNotBase64 defect.message)
  | .ok octets =>
      match Crypto.PublicKey.ofDer? octets with
      | some key => .ok key
      | none => .error (.publicKeyNotPkix "not a public key on P-256")

/-- Encode a public key in base64. -/
def encodePublicKey (key : Crypto.PublicKey) : String :=
  Text.encodeBase64 key.toDer

/-- Read a private key in PEM. -/
def readPrivateKey (pem : String) : Except SignatureError Crypto.PrivateKey :=
  match Crypto.PrivateKey.ofPem? pem with
  | some key => .ok key
  | none => .error (.privateKey "not a private key on P-256")

/-- A domain under which manifests are signed and verified. -/
structure TrustDomain where
  /-- The start of its annotation keys. -/
  name : String
  /-- Its public key in base64. -/
  publicKey : String
  deriving DecidableEq, Repr

namespace TrustDomain

/-- The name of the default domain. -/
def defaultName : String := "eksa.aws.com"

/-- The public key of the default domain. -/
def defaultPublicKey : String :=
  "MFkwEwYHKoZIzj0CAQYIKoZIzj0DAQcDQgAEnP0Yo+ZxzPUEfohcG3bbJ8987UT4f0tj+XVBjS/s35wkfjrxTKrV" ++
    "ZQpz3ta3zi5ZlgXzd7a20B1U1Py/TtPsxw=="

/-- The variable of the environment that replaces the public key of the default domain. -/
def publicKeyVariable : String := "PKGBUNDLE_PUBLIC_KEY"

/-- The default domain. -/
def standard : TrustDomain := ⟨defaultName, defaultPublicKey⟩

/-- Replace the public key by a given one that is not blank. -/
def withPublicKey (domain : TrustDomain) (publicKey : Option String) : TrustDomain :=
  match publicKey.map Text.trim with
  | some publicKey => if publicKey.isEmpty then domain else { domain with publicKey := publicKey }
  | none => domain

/-- The default domain with the public key of an environment. -/
def ofEnvironment (lookup : String → Option String) : TrustDomain :=
  standard.withPublicKey (lookup publicKeyVariable)

/-- The key that signatures under a domain are checked with. -/
def verifyingKey (domain : TrustDomain) : Except SignatureError Crypto.PublicKey :=
  decodePublicKey domain.publicKey

end TrustDomain

end BundleTrust
