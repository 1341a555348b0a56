import BundleTrust.Bundle.Lookup
import BundleTrust.Signature.Verification

/-!
# States of bundles

The state of a bundle is derived from scratch: from its namespace, its name, its signature,
whether it is the active bundle, and the other bundles for its server version.
-/

namespace BundleTrust

/-- What the state of a bundle depends on. -/
structure LifecycleContext where
  /-- The namespace of bundles. -/
  space : String
  /-- The version of the server. -/
  server : ServerVersion
  /-- The domain that bundles are checked under. -/
  domain : TrustDomain
  /-- Whether the bundle is the active one. -/
  isActive : Bool
  /-- The bundles in the namespace. -/
  bundles : List Bundle

namespace Bundle

/-- Verify the signature of a bundle under a domain. -/
def verify (bundle : Bundle) (domain : TrustDomain) : Except SignatureError Verification :=
  verifyManifest bundle.toManifest domain

/-- Whether a bundle has a valid signature under a domain. -/
def isSigned (bundle : Bundle) (domain : TrustDomain) : Bool :=
  match bundle.verify domain with
  | .ok verification => verification.isValid
  | .error _ => false

/-- Whether a bundle in a namespace is made for the server version of a given one and newer
than it. -/
def isNewerIn (bundle : Bundle) (space : String) (version : BundleVersion) : Bool :=
  bundle.space == space &&
    match BundleVersion.parse? bundle.name with
    | some other => other.isSameMinor version && version.sequence < other.sequence
    | none => false

/-- The state of a bundle. -/
def evaluateState (bundle : Bundle) (context : LifecycleContext) : BundleState :=
  if bundle.space ≠ context.space then .ignored
  else
    match BundleVersion.parse? bundle.name with
    | none => .invalidVersion
    | some version =>
        if !context.server.accepts version then .ignoredVersion
        else if !bundle.isSigned context.domain then .invalid
        else if !context.isActive then .inactive
        else if context.bundles.any fun other => other.isNewerIn context.space version then
          .upgradeAvailable
        else .active

end Bundle

end BundleTrust
