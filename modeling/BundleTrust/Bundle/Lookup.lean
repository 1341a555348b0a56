import BundleTrust.Bundle.Basic
import BundleTrust.Version.ServerVersion

/-!
# Looking things up in bundles

Packages by name, versions by name or digest, where a package version is fetched from, and
how a bundle stands to a server version.
-/

namespace BundleTrust

/-- Where one version of a package is fetched from. -/
structure ChartSource where
  /-- The registry. -/
  registry : String
  /-- The repository in the registry. -/
  repository : String
  /-- What identifies the version. -/
  digest : String
  /-- The name of the version. -/
  version : String
  deriving DecidableEq, Repr

/-- A registry and a repository in it, with one slash between them. -/
def joinLocation (registry repository : String) : String :=
  String.ofList (Text.dropLastWhile (· = '/') registry.toList) ++ "/" ++
    String.ofList (repository.toList.dropWhile (· = '/'))

/-- The address of a chart. -/
def ChartSource.uri (source : ChartSource) : String :=
  "oci://" ++ joinLocation source.registry source.repository

/-- The word for the preferred version of a package. -/
def latestVersion : String := "latest"

/-- A letter of ASCII in lower case; other characters stay as they are. -/
def lowerLetter (character : Char) : Char :=
  if 'A' ≤ character && character ≤ 'Z' then Char.ofNat (character.toNat + 32) else character

/-- Whether two texts differ at most in the case of ASCII letters. -/
def isSameIgnoringCase (left right : String) : Bool :=
  left.toList.map lowerLetter == right.toList.map lowerLetter

namespace PackageSource

/-- The versions by which sources are told apart. -/
def versionKeys (source : PackageSource) : List (String × String) :=
  source.versions.map fun version => (version.name, version.digest)

/-- Whether two sources are at one place and have the same versions, in any order. -/
def matchesSource (left right : PackageSource) : Bool :=
  left.registry == right.registry && left.repository == right.repository &&
    left.versionKeys.all right.versionKeys.contains &&
    right.versionKeys.all left.versionKeys.contains

end PackageSource

namespace Bundle

/-- The package with a name, whatever the case of its letters. -/
def findPackage (bundle : Bundle) (name : String) : Except BundleError Package :=
  match bundle.packages.find? fun package => isSameIgnoringCase package.name name with
  | some package => .ok package
  | none => .error (.packageNotFound bundle.name name)

/-- The version of a package with a name or a digest, or the preferred one. -/
def findVersion (bundle : Bundle) (package : Package) (version : String) :
    Except BundleError PackageVersion :=
  let isMeant (candidate : PackageVersion) : Bool :=
    version == latestVersion || candidate.name == version || candidate.digest == version
  match package.source.versions.find? isMeant with
  | some found => .ok found
  | none => .error (.versionNotFound bundle.name package.name version)

/-- Where a version of a package is fetched from. -/
def chartSource (bundle : Bundle) (package version : String) :
    Except BundleError ChartSource :=
  match bundle.findPackage package with
  | .error failure => .error failure
  | .ok package =>
      (bundle.findVersion package version).map fun found =>
        ⟨package.source.registry, package.source.repository, found.digest, found.name⟩

/-- The version that the name of a bundle spells. -/
def version (bundle : Bundle) : Except BundleError BundleVersion :=
  match BundleVersion.parse? bundle.name with
  | some version => .ok version
  | none => .error (.invalidName bundle.name)

/-- Whether the name of a bundle spells a version. -/
def hasValidVersion (bundle : Bundle) : Bool :=
  (BundleVersion.parse? bundle.name).isSome

/-- Whether a bundle is made for a server. -/
def isMadeFor (bundle : Bundle) (server : ServerVersion) : Except BundleError Bool :=
  bundle.version.map server.accepts

/-- Whether a bundle is made for a server is decided by the version that its name spells. -/
theorem isMadeFor_of_spelled
    {bundle : Bundle}
    {version : BundleVersion}
    (spelled : BundleVersion.parse? bundle.name = some version)
    (server : ServerVersion) :
    bundle.isMadeFor server = .ok (server.accepts version) := by
  rw [isMadeFor, Bundle.version, spelled]
  rfl

end Bundle

/-- Sort bundles, the newest version first. -/
def sortBundles (bundles : List Bundle) : List Bundle :=
  sortNewestFirst Bundle.name bundles

end BundleTrust
