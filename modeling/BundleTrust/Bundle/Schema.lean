import BundleTrust.Bundle.Basic
import BundleTrust.Compress.Gzip
import BundleTrust.Text.Base64
import BundleTrust.Text.Blank
import BundleTrust.Text.Utf8

/-!
# Configuration schemas

The schema of a package version is kept compressed, in base64.
-/

namespace BundleTrust
namespace PackageVersion

/-- The schema of the configuration of a version. -/
def configurationSchema (version : PackageVersion) : Except BundleError (List UInt8) :=
  match Text.decodeBase64 (Text.octets (Text.trim version.schema)) with
  | .error defect => .error (.schema defect.message)
  | .ok compressed =>
      (Compress.gunzip compressed).mapError fun failure =>
        .schema ("uncompressing: " ++ failure.message)

end PackageVersion
end BundleTrust
