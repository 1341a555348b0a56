import BundleTrust.Text.Blank
import BundleTrust.Text.Quoted
import BundleTrust.Version.BundleVersion

/-!
# Versions of servers

The version that a cluster's server reports.  A plus sign, which marks a version that is
not generally available, plays no part in comparisons.
-/

namespace BundleTrust

/-- The version of a server. -/
structure ServerVersion where
  /-- The major version. -/
  major : String
  /-- The minor version. -/
  minor : String
  deriving DecidableEq, Repr

namespace ServerVersion

/-- Read a version `<major>.<minor>` that may start with `v` and go on after another
point. -/
def parse? (text : String) : Option ServerVersion :=
  let trimmed := (Text.trimBlanks text.toList).dropWhile (· = 'v')
  match Text.pieces '.' trimmed with
  | major :: minor :: _ =>
      if major.isEmpty || minor.isEmpty then none
      else some ⟨String.ofList major, String.ofList minor⟩
  | _ => none

/-- The wording for a text that is not a version. -/
def refusal (text : String) : String :=
  "kube version should be in <major>.<minor> format, got " ++ Text.quoted text

/-- Drop the plus signs of a text. -/
def dropPlusSigns (text : String) : String :=
  String.ofList (text.toList.filter (· ≠ '+'))

/-- The characters that are left without plus signs. -/
theorem toList_dropPlusSigns (text : String) :
    (dropPlusSigns text).toList = text.toList.filter (· ≠ '+') :=
  String.toList_ofList

/-- The text by which a server is compared with the versions of bundles. -/
def kubeVersion (server : ServerVersion) : String :=
  dropPlusSigns ("v" ++ server.major ++ "-" ++ server.minor)

/-- The characters of the text of a server. -/
theorem toList_kubeVersion (server : ServerVersion) :
    server.kubeVersion.toList =
      'v' :: ((dropPlusSigns server.major).toList ++
        '-' :: (dropPlusSigns server.minor).toList) := by
  simp [kubeVersion, dropPlusSigns]

/-- Whether a bundle is made for a server. -/
def accepts (server : ServerVersion) (version : BundleVersion) : Bool :=
  server.kubeVersion == version.kubeVersion

/-- The version as a text. -/
def render (server : ServerVersion) : String :=
  server.major ++ "." ++ server.minor

end ServerVersion

end BundleTrust
