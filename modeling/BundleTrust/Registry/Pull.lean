import BundleTrust.Crypto.Sha256
import BundleTrust.Document.JsonShape
import BundleTrust.Document.Record
import BundleTrust.Document.TextMap
import BundleTrust.Registry.Artifact
import BundleTrust.Registry.Exchange
import BundleTrust.Registry.Reference
import BundleTrust.Text.Hexadecimal

/-!
# Pulling artifacts

An artifact is pulled in two steps: its manifest lists layers by their digests, and the layer
that holds the bundle is fetched and checked against its digest.
-/

namespace BundleTrust

/-- A layer of an artifact. -/
structure Layer where
  /-- The type of its content. -/
  mediaType : String
  /-- What identifies its content. -/
  digest : String
  /-- What is said about it. -/
  annotations : TextMap
  deriving DecidableEq, Repr

namespace Layer

/-- What the fields are read as, in their order. -/
def fields : List (String × Json.Shape) :=
  [("mediaType", .text), ("digest", .text), ("annotations", .texts)]

/-- Read a layer. -/
def ofDocument? (document : Document) : Option Layer := do
  let members ← document.asRecord? (fields.map Prod.fst)
  let mediaType ← members.fieldOr? "mediaType" "" Document.asText?
  let digest ← members.field? "digest" Document.asText?
  let annotations ← members.fieldOr? "annotations" .empty TextMap.ofDocument?
  some ⟨mediaType, digest, annotations⟩

/-- The annotation that tells from which file a layer was made. -/
def titleKey : String := "org.opencontainers.image.title"

/-- The title of the layer that holds the bundle. -/
def bundleTitle : String := "bundle.yaml"

/-- Whether a layer has the title of the one that holds the bundle. -/
def isBundle (layer : Layer) : Bool :=
  layer.annotations.get? titleKey == some bundleTitle

end Layer

/-- What the fields of a manifest are read as. -/
def manifestFields : List (String × Json.Shape) :=
  [("layers", .list (.record Layer.fields))]

/-- Read the layers that a manifest lists. -/
def layersOfDocument? (document : Document) : Option (List Layer) := do
  let members ← document.asRecord? (manifestFields.map Prod.fst)
  members.fieldOr? "layers" [] (Document.asListOf? Layer.ofDocument?)

/-- Read a manifest. -/
def readLayers (reference : String) (octets : List UInt8) : Except BundleError (List Layer) :=
  match (Json.readAs? (.record manifestFields) octets).bind layersOfDocument? with
  | some layers => .ok layers
  | none => .error (.registry reference "invalid manifest: not a list of layers")

/-- The layer that holds the bundle: the first one with the title of a bundle, else the only
one. -/
def selectLayer (reference : String) (layers : List Layer) : Except BundleError Layer :=
  match layers.find? Layer.isBundle with
  | some layer => .ok layer
  | none =>
      match layers with
      | [only] => .ok only
      | _ =>
          .error
            (.registry reference
              ("no " ++ Layer.bundleTitle ++ " layer among " ++ Text.decimal layers.length ++
                " layers"))

/-- The digest of octets. -/
def contentDigest (octets : List UInt8) : String :=
  "sha256:" ++ Text.hex (Crypto.sha256 octets)

/-- Refuse a blob whose digest is another one than was expected. -/
def checkBlob (reference digest : String) (blob : List UInt8) :
    Except BundleError (List UInt8) :=
  if contentDigest blob = digest then .ok blob
  else
    .error
      (.registry reference
        ("digest mismatch: expected " ++ digest ++ ", got " ++ contentDigest blob))

/-- The media types of manifests. -/
def manifestMediaTypes : String :=
  "application/vnd.oci.image.manifest.v1+json, " ++
    "application/vnd.docker.distribution.manifest.v2+json"

/-- An exchange that may fail. -/
abbrev PullStep (Answer : Type) : Type :=
  ExceptT BundleError (Script ExchangeRequest ExchangeRequest.Reply) Answer

namespace PullSettings

/-- Fetch the layers of an artifact. -/
def fetchLayers (settings : PullSettings) (artifact : ArtifactReference) :
    PullStep (List Layer) := do
  let body ← ExceptT.mk
    (settings.fetch artifact.render (artifact.manifestAddress settings.isInsecure)
      (some manifestMediaTypes))
  ExceptT.mk (.done (readLayers artifact.render body))

/-- Pull the content of an artifact. -/
def pull (settings : PullSettings) (reference : String) : PullStep (List UInt8) := do
  let artifact ← ExceptT.mk (.done (ArtifactReference.read reference))
  let layers ← settings.fetchLayers artifact
  let layer ← ExceptT.mk (.done (selectLayer reference layers))
  let blob ← ExceptT.mk
    (settings.fetch reference (artifact.blobAddress layer.digest settings.isInsecure) none)
  ExceptT.mk (.done (checkBlob reference layer.digest blob))

/-- Pull a bundle. -/
def pullBundle (settings : PullSettings) (reference : String) : PullStep Bundle := do
  let octets ← settings.pull reference
  ExceptT.mk (.done (bundleOfArtifact reference octets))

end PullSettings

end BundleTrust
