import BundleTrust.Signature.Digest

/-!
# Verifying manifests

A manifest is valid under a domain if its signature annotation holds a signature of its
digest by the key of the domain.  A signature that is not valid is an outcome; a manifest
without one, or a key that cannot be read, is a failure.
-/

namespace BundleTrust

/-- The outcome of a verification. -/
structure Verification where
  /-- Whether the signature is one of the digest by the key of the domain. -/
  isValid : Bool
  /-- The digest. -/
  digest : ManifestDigest
  deriving DecidableEq, Repr

/-- Verify a manifest under a domain. -/
def verifyManifest (manifest : Document) (domain : TrustDomain) :
    Except SignatureError Verification :=
  match annotation? manifest (signatureAnnotationKey domain.name) with
  | none => .error .missingSignature
  | some encoded =>
      match digestManifest manifest domain.name with
      | .error failure => .error failure
      | .ok digest =>
          match Text.decodeBase64 (Text.octets (Text.trim encoded)) with
          | .error defect => .error (.signatureNotBase64 defect.message)
          | .ok octets =>
              match domain.verifyingKey with
              | .error failure => .error failure
              | .ok key =>
                  let isValid :=
                    match Crypto.EcdsaSignature.ofDer? octets with
                    | some signature => key.verifies digest.octets signature
                    | none => false
                  .ok ⟨isValid, digest⟩

/-- Verify a manifest given as YAML. -/
def verifyYaml (text : String) (domain : TrustDomain) : Except SignatureError Verification :=
  match readManifest text with
  | .error failure => .error failure
  | .ok manifest => verifyManifest manifest domain

end BundleTrust
