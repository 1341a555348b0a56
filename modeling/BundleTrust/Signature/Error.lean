/-!
# Failures of digests and signatures

Why a manifest cannot be digested, signed or verified, how that is worded, and the exit
status that a command ends with.
-/

namespace BundleTrust

instance decidableEqExcept {Failure Value : Type} [DecidableEq Failure] [DecidableEq Value] :
    DecidableEq (Except Failure Value)
  | .error left, .error right => decidable_of_iff (left = right) (by simp)
  | .ok left, .ok right => decidable_of_iff (left = right) (by simp)
  | .error _, .ok _ | .ok _, .error _ => isFalse (by simp)

/-- Why a manifest cannot be digested, signed or verified. -/
inductive SignatureError where
  /-- The manifest has no signature of the domain. -/
  | missingSignature
  /-- The excludes annotation is not base64 of a text. -/
  | excludesNotBase64 (detail : String)
  /-- Some of the excludes are not selectors. -/
  | invalidSelectors (selectors : List String)
  /-- The signature annotation is not base64. -/
  | signatureNotBase64 (detail : String)
  /-- The public key of the domain is not base64. -/
  | publicKeyNotBase64 (detail : String)
  /-- The public key of the domain is not one on the curve P-256. -/
  | publicKeyNotPkix (detail : String)
  /-- The private key cannot be read. -/
  | privateKey (detail : String)
  /-- No signature could be made. -/
  | signing (detail : String)
  /-- The manifest is not a document of the form needed. -/
  | document (detail : String)
  /-- The part to be digested is not a mapping. -/
  | internal (detail : String)
  deriving DecidableEq, Repr

namespace SignatureError

/-- The wording of a failure. -/
def message : SignatureError → String
  | .missingSignature => "missing signature"
  | .excludesNotBase64 detail => "decoding excludes: " ++ detail
  | .invalidSelectors selectors =>
      "invalid selector(s) provided: " ++ ", ".intercalate selectors
  | .signatureNotBase64 detail => "signature not base64: " ++ detail
  | .publicKeyNotBase64 detail => "public key not base64: " ++ detail
  | .publicKeyNotPkix detail => "public key not PKIX: " ++ detail
  | .privateKey detail => "parsing private key: " ++ detail
  | .signing detail => "signing digest: " ++ detail
  | .document detail => "converting manifest: " ++ detail
  | .internal detail => "internal digest error: " ++ detail

/-- The exit status of a command that ends with a failure: four where trust is missing, six
where the signer failed, else one. -/
def exitCode : SignatureError → Nat
  | .missingSignature => 4
  | .signatureNotBase64 _ => 4
  | .signing _ => 6
  | .internal _ => 6
  | _ => 1

end SignatureError

end BundleTrust
