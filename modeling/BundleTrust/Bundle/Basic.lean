import BundleTrust.Bundle.Metadata
import BundleTrust.Error
import BundleTrust.Yaml.Writer

/-!
# Bundles

A bundle is an immutable set of installable packages for one server version, with the state
that the lifecycle derived for it.
-/

namespace BundleTrust

/-- The version of the form of all documents. -/
def apiVersionText : String := "packages.eks.amazonaws.com/v1alpha1"

/-- An image that a package version needs. -/
structure VersionImage where
  /-- Where it is kept. -/
  repository : String
  /-- What identifies it. -/
  digest : String
  deriving DecidableEq, Repr

/-- A published version of a package. -/
structure PackageVersion where
  /-- The name of the version. -/
  name : String
  /-- What identifies the version. -/
  digest : String
  /-- The schema of its configuration, compressed, in base64. -/
  schema : String
  /-- The images that it needs. -/
  images : List VersionImage
  deriving DecidableEq, Repr

/-- Where a package is kept and in which versions. -/
structure PackageSource where
  /-- The registry. -/
  registry : String
  /-- The repository in the registry. -/
  repository : String
  /-- The versions, the preferred one first. -/
  versions : List PackageVersion
  deriving DecidableEq, Repr

/-- A package. -/
structure Package where
  /-- Its name. -/
  name : String
  /-- Where it is kept. -/
  source : PackageSource
  deriving DecidableEq, Repr

/-- The state that the lifecycle derives for a bundle. -/
inductive BundleState where
  /-- The bundle in use. -/
  | active
  /-- A bundle that could be used. -/
  | inactive
  /-- The bundle in use, to which there is a newer one. -/
  | upgradeAvailable
  /-- A bundle in a foreign namespace. -/
  | ignored
  /-- A bundle for another server version. -/
  | ignoredVersion
  /-- A bundle without a valid signature. -/
  | invalid
  /-- A bundle whose name spells no version. -/
  | invalidVersion
  /-- Anything that another writer stored. -/
  | unknown
  deriving DecidableEq, Repr

/-- A bundle. -/
structure Bundle where
  /-- The version of the form of the document. -/
  apiVersion : String
  /-- The kind of the document. -/
  kind : String
  /-- What the bundle says about itself. -/
  metadata : Metadata
  /-- Its packages. -/
  packages : List Package
  /-- The state that was derived for it, if one was. -/
  state : Option BundleState
  deriving DecidableEq, Repr

namespace VersionImage

/-- What the fields are read as, in their order. -/
def fields : List (String × Yaml.Shape) := [("repository", .text), ("digest", .text)]

/-- An image as a document. -/
def toDocument (image : VersionImage) : Document :=
  .mapping [("repository", .text image.repository), ("digest", .text image.digest)]

/-- Read an image. -/
def ofDocument? (document : Document) : Option VersionImage := do
  let members ← document.asRecord? (fields.map Prod.fst)
  let repository ← members.field? "repository" Document.asText?
  let digest ← members.field? "digest" Document.asText?
  some ⟨repository, digest⟩

end VersionImage

namespace PackageVersion

/-- What the fields are read as, in their order. -/
def fields : List (String × Yaml.Shape) :=
  [("name", .text), ("digest", .text), ("schema", .text),
    ("images", .list (.record VersionImage.fields))]

/-- A version as a document. -/
def toDocument (version : PackageVersion) : Document :=
  .mapping
    ([("name", .text version.name), ("digest", .text version.digest)] ++
      Members.ofText "schema" version.schema ++
      Members.omitIf version.images.isEmpty "images"
        (.list (version.images.map VersionImage.toDocument)))

/-- Read a version. -/
def ofDocument? (document : Document) : Option PackageVersion := do
  let members ← document.asRecord? (fields.map Prod.fst)
  let name ← members.field? "name" Document.asText?
  let digest ← members.field? "digest" Document.asText?
  let schema ← members.fieldOr? "schema" "" Document.asText?
  let images ← members.fieldOr? "images" [] (Document.asListOf? VersionImage.ofDocument?)
  some ⟨name, digest, schema, images⟩

end PackageVersion

namespace PackageSource

/-- What the fields are read as, in their order. -/
def fields : List (String × Yaml.Shape) :=
  [("registry", .text), ("repository", .text),
    ("versions", .list (.record PackageVersion.fields))]

/-- A source as a document. -/
def toDocument (source : PackageSource) : Document :=
  .mapping
    (Members.ofText "registry" source.registry ++
      [("repository", .text source.repository),
        ("versions", .list (source.versions.map PackageVersion.toDocument))])

/-- Read a source. -/
def ofDocument? (document : Document) : Option PackageSource := do
  let members ← document.asRecord? (fields.map Prod.fst)
  let registry ← members.fieldOr? "registry" "" Document.asText?
  let repository ← members.field? "repository" Document.asText?
  let versions ← members.fieldOr? "versions" [] (Document.asListOf? PackageVersion.ofDocument?)
  some ⟨registry, repository, versions⟩

end PackageSource

namespace Package

/-- What the fields are read as, in their order. -/
def fields : List (String × Yaml.Shape) :=
  [("name", .text), ("source", .record PackageSource.fields)]

/-- A package as a document. -/
def toDocument (package : Package) : Document :=
  .mapping (Members.ofText "name" package.name ++ [("source", package.source.toDocument)])

/-- Read a package. -/
def ofDocument? (document : Document) : Option Package := do
  let members ← document.asRecord? (fields.map Prod.fst)
  let name ← members.fieldOr? "name" "" Document.asText?
  let source ← members.field? "source" PackageSource.ofDocument?
  some ⟨name, source⟩

end Package

namespace BundleState

/-- The name of a state. -/
def name : BundleState → String
  | .active => "active"
  | .inactive => "inactive"
  | .upgradeAvailable => "upgrade available"
  | .ignored => "ignored"
  | .ignoredVersion => "ignored version"
  | .invalid => "invalid"
  | .invalidVersion => "invalid version"
  | .unknown => "unknown"

/-- The states that have a meaning. -/
def known : List BundleState :=
  [.active, .inactive, .upgradeAvailable, .ignored, .ignoredVersion, .invalid, .invalidVersion]

/-- The state with a name. -/
def ofName (name : String) : BundleState :=
  (known.find? fun state => state.name = name).getD .unknown

/-- Read a state. -/
def ofDocument? (document : Document) : Option BundleState :=
  document.asChoice?.map ofName

/-- Read what is derived for a bundle, which is its state alone. -/
def ofStatus? (document : Document) : Option (Option BundleState) := do
  let members ← document.asRecord? ["state"]
  members.fieldOr? "state" none (Document.asOptional? ofDocument?)

end BundleState

namespace Bundle

/-- A bundle without packages. -/
def named (space name : String) : Bundle :=
  ⟨apiVersionText, ResourceKind.bundle.name, .named space name, [], none⟩

/-- The name of a bundle. -/
def name (bundle : Bundle) : String := bundle.metadata.name

/-- The namespace of a bundle. -/
def space (bundle : Bundle) : String := bundle.metadata.space

/-- What the fields are read as, in their order. -/
def fields : List (String × Yaml.Shape) :=
  [("apiVersion", .text), ("kind", .text), ("metadata", .record Metadata.fields),
    ("spec", .record [("packages", .list (.record Package.fields))]),
    ("status", .record [("state", .optional .choice)])]

/-- What is derived for a bundle as a document. -/
def statusDocument (state : BundleState) : Document :=
  .mapping [("state", .text state.name)]

/-- A bundle as a document, with the fields in their order. -/
def toDocument (bundle : Bundle) : Document :=
  .mapping
    ([("apiVersion", .text bundle.apiVersion), ("kind", .text bundle.kind),
        ("metadata", bundle.metadata.toDocument),
        ("spec", .mapping [("packages", .list (bundle.packages.map Package.toDocument))])] ++
      Members.ofOption "status" statusDocument bundle.state)

/-- A bundle as a manifest. -/
def toManifest (bundle : Bundle) : Document :=
  bundle.toDocument.sortKeys

/-- Read the packages of a bundle. -/
def packagesOfDocument? (document : Document) : Option (List Package) := do
  let members ← document.asRecord? ["packages"]
  members.fieldOr? "packages" [] (Document.asListOf? Package.ofDocument?)

/-- Read a bundle. -/
def ofDocument? (document : Document) : Option Bundle := do
  let members ← document.asRecord? (fields.map Prod.fst)
  let apiVersion ← members.fieldOr? "apiVersion" apiVersionText Document.asText?
  let kind ← members.fieldOr? "kind" ResourceKind.bundle.name Document.asText?
  let metadata ← members.fieldOr? "metadata" (.named "" "") Metadata.ofDocument?
  let packages ← members.fieldOr? "spec" [] packagesOfDocument?
  let state ← members.fieldOr? "status" none BundleState.ofStatus?
  some ⟨apiVersion, kind, metadata, packages, state⟩

/-- Read a bundle from YAML. -/
def ofYaml? (text : String) : Option Bundle :=
  (Yaml.readAs? (.record fields) text).bind ofDocument?

/-- The YAML text of a bundle, with the fields in their order. -/
def toYaml (bundle : Bundle) : String :=
  Yaml.write bundle.toDocument

end Bundle

end BundleTrust
