import BundleTrust.Signature.Error

/-!
# Failures of bundle management

Why an operation on bundles, controllers, registries or the store fails, how that is
worded, the exit status of a command, and whether to try again later.
-/

namespace BundleTrust

/-- The kinds of documents in the store. -/
inductive ResourceKind where
  /-- A bundle. -/
  | bundle
  /-- A bundle controller. -/
  | controller
  /-- A document of a kind that only another store keeps. -/
  | other (name : String)
  deriving DecidableEq, Repr

/-- The name of a kind in documents and messages. -/
def ResourceKind.name : ResourceKind → String
  | .bundle => "PackageBundle"
  | .controller => "PackageBundleController"
  | .other name => name

/-- Why an operation fails. -/
inductive BundleError where
  /-- A digest or a signature failed. -/
  | signature (cause : SignatureError)
  /-- A name is not that of a bundle. -/
  | invalidName (name : String)
  /-- A text is not a reference to an artifact. -/
  | invalidReference (reference reason : String)
  /-- A registry could not be reached or refused. -/
  | registry (reference detail : String)
  /-- An artifact has no content. -/
  | emptyArtifact (reference : String)
  /-- An artifact is not a bundle. -/
  | decode (detail : String)
  /-- The version of the server is not known. -/
  | serverVersion (detail : String)
  /-- The store has no such document. -/
  | notFound (kind : ResourceKind) (space name : String)
  /-- A write was based on a version that is no longer stored. -/
  | conflict (kind : ResourceKind) (name expected : String)
  /-- The store failed otherwise. -/
  | store (detail : String)
  /-- A bundle has no such package. -/
  | packageNotFound (bundle package : String)
  /-- A package has no such version. -/
  | versionNotFound (bundle package version : String)
  /-- The schema of a package version cannot be decoded. -/
  | schema (detail : String)
  /-- The configuration is wrong. -/
  | configuration (detail : String)
  deriving DecidableEq, Repr

namespace BundleError

/-- The wording of a failure. -/
def message : BundleError → String
  | .signature cause => cause.message
  | .invalidName name => "invalid bundle name: " ++ name
  | .invalidReference reference reason => "invalid reference '" ++ reference ++ "': " ++ reason
  | .registry reference detail => "pulling package bundle " ++ reference ++ ": " ++ detail
  | .emptyArtifact reference => "package bundle artifact is empty: " ++ reference
  | .decode detail => "unmarshalling package bundle: " ++ detail
  | .serverVersion detail => "getting server version: " ++ detail
  | .notFound kind space name => kind.name ++ " not found: " ++ space ++ "/" ++ name
  | .conflict kind name expected =>
      "conflict writing " ++ kind.name ++ " " ++ name ++ ": resource version " ++ expected ++
        " is stale"
  | .store detail => "store error: " ++ detail
  | .packageNotFound bundle package =>
      "package not found in bundle (" ++ bundle ++ "): " ++ package
  | .versionNotFound bundle package version =>
      "package version not found in bundle (" ++ bundle ++ "): " ++ package ++ " @ " ++ version
  | .schema detail => "error decoding configurations: " ++ detail
  | .configuration detail => "configuration error: " ++ detail

/-- The exit status of a command that ends with a failure: five where the outside world
failed, that of its cause for a signature, else one. -/
def exitCode : BundleError → Nat
  | .signature cause => cause.exitCode
  | .registry _ _ => 5
  | .emptyArtifact _ => 5
  | .serverVersion _ => 5
  | .conflict _ _ _ => 5
  | .store _ => 5
  | _ => 1

/-- Whether a failure may be gone at the next attempt. -/
def isRetryable : BundleError → Bool
  | .registry _ _ => true
  | .serverVersion _ => true
  | .conflict _ _ _ => true
  | .store _ => true
  | _ => false

end BundleError

end BundleTrust
