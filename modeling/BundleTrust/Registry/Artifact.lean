import BundleTrust.Bundle.Basic
import BundleTrust.Text.Utf8
import BundleTrust.Version.ServerVersion

/-!
# Bundles as artifacts

How the newest bundle for a server is tagged, and how a bundle is read from the octets of
an artifact.
-/

namespace BundleTrust

/-- The reference of the newest bundle for a server. -/
def latestReference (baseReference : String) (server : ServerVersion) : String :=
  baseReference ++ ":" ++ server.kubeVersion ++ "-latest"

/-- An ASCII blank: space, tab, line feed, form feed or carriage return. -/
def isBlankOctet (octet : UInt8) : Bool :=
  octet == 0x20 || octet == 0x09 || octet == 0x0a || octet == 0x0c || octet == 0x0d

/-- Read a bundle from the artifact at a reference. -/
def bundleOfArtifact (reference : String) (octets : List UInt8) : Except BundleError Bundle :=
  if octets.all isBlankOctet then .error (.emptyArtifact reference)
  else
    match Text.decodeUtf8 octets with
    | .error defect => .error (.decode defect.message)
    | .ok text =>
        match Bundle.ofYaml? text with
        | some bundle => .ok bundle
        | none => .error (.decode "not a bundle")

end BundleTrust
