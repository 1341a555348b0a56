import BundleTrust.Crypto.Sha256
import BundleTrust.Document.Filter
import BundleTrust.Document.Selector
import BundleTrust.Signature.Trust
import BundleTrust.Text.Pieces
import BundleTrust.Yaml.Shape
import BundleTrust.Yaml.Writer

/-!
# Digests of manifests

What a signature covers: the manifest without the fields that a cluster assigns, without
the places that its own excludes annotation lists, and of the annotations only those that
declare what is covered.  That view is written as canonical YAML and hashed.
-/

namespace BundleTrust

/-- Read a manifest, which has to be a mapping. -/
def readManifest (text : String) : Except SignatureError Document :=
  match Yaml.read? text with
  | some document =>
      if document.isMapping then .ok document
      else .error (.document "manifest must be a mapping")
  | none => .error (.document "not a YAML document")

/-- The text of an annotation of a manifest. -/
def annotation? (manifest : Document) (key : String) : Option String :=
  ((manifest.get? "metadata").bind fun metadata =>
    (metadata.get? "annotations").bind fun annotations => annotations.get? key).bind
      Document.asText?

/-- Write a list of selectors as an excludes annotation. -/
def encodeExcludes (selectors : List String) : String :=
  Text.encodeBase64 (Text.octets ("\n".intercalate selectors))

/-- The selectors of an excludes text: its lines, without the empty ones. -/
def excludedSelectors (text : String) : List String :=
  ((Text.pieces '\n' text.toList).filter fun line => !line.isEmpty).map String.ofList

/-- The places that selectors name; all selectors that name none are reported. -/
def pathsOfSelectors (selectors : List String) : Except SignatureError (List FieldPath) :=
  let invalid := selectors.filter fun selector => (Selector.parse? selector).isNone
  if invalid.isEmpty then .ok (selectors.filterMap Selector.parse?)
  else .error (.invalidSelectors invalid)

/-- Selectors name places below the root. -/
theorem pathsOfSelectors_ne_nil
    {selectors : List String}
    {paths : List FieldPath}
    (named : pathsOfSelectors selectors = .ok paths)
    (path : FieldPath)
    (isNamed : path ∈ paths) :
    path ≠ [] := by
  rw [pathsOfSelectors] at named
  split at named
  · cases named
    obtain ⟨selector, -, parsed⟩ := List.mem_filterMap.1 isNamed
    exact Selector.parse?_ne_nil parsed
  · contradiction

/-- The places that the excludes annotation of a domain lists. -/
def readExcludes (manifest : Document) (domain : String) :
    Except SignatureError (List FieldPath) :=
  match annotation? manifest (excludesAnnotationKey domain) with
  | none => .ok []
  | some encoded =>
      match Text.decodeBase64 (Text.octets encoded) with
      | .error defect => .error (.excludesNotBase64 defect.message)
      | .ok octets =>
          match Text.decodeUtf8 octets with
          | .error defect => .error (.excludesNotBase64 defect.message)
          | .ok text => pathsOfSelectors (excludedSelectors text)

/-- Excluded places are below the root. -/
theorem readExcludes_ne_nil
    {manifest : Document}
    {domain : String}
    {paths : List FieldPath}
    (listed : readExcludes manifest domain = .ok paths)
    (path : FieldPath)
    (isListed : path ∈ paths) :
    path ≠ [] := by
  rw [readExcludes] at listed
  split at listed
  · cases listed
    contradiction
  · split at listed
    · contradiction
    · split at listed
      · contradiction
      · exact pathsOfSelectors_ne_nil listed path isListed

/-- Which places are excluded depends on the excludes annotation alone. -/
theorem readExcludes_congr
    {manifest manifest' : Document}
    {domain : String}
    (same : annotation? manifest (excludesAnnotationKey domain) =
      annotation? manifest' (excludesAnnotationKey domain)) :
    readExcludes manifest domain = readExcludes manifest' domain := by
  rw [readExcludes, readExcludes, same]

/-- The annotations that declare what a signature under a domain covers. -/
def declarationKeys (domain : String) : List String :=
  [includesAnnotationKey domain, excludesAnnotationKey domain]

/-- The filter whose outcome is digested. -/
def signingFilter (manifest : Document) (domain : String) :
    Except SignatureError DocumentFilter :=
  (readExcludes manifest domain).map fun paths =>
    (DocumentFilter.serverAssigned.excluding paths).keepingAnnotations (declarationKeys domain)

/-- A digest and the text that it was made from. -/
structure ManifestDigest where
  /-- The canonical YAML. -/
  yaml : String
  deriving DecidableEq, Repr

namespace ManifestDigest

/-- The octets of the digest. -/
def octets (digest : ManifestDigest) : List UInt8 :=
  Crypto.sha256 (Text.octets digest.yaml)

/-- The digest as hexadecimal digits. -/
def hex (digest : ManifestDigest) : String :=
  Text.hex digest.octets

/-- The digest in base64. -/
def base64 (digest : ManifestDigest) : String :=
  Text.encodeBase64 digest.octets

end ManifestDigest

/-- The digest of a manifest under a domain, where documents with sorted keys are written by
a given writer. -/
def digestManifestWith (write : Document → String) (manifest : Document) (domain : String) :
    Except SignatureError ManifestDigest :=
  match signingFilter manifest domain with
  | .error failure => .error failure
  | .ok filter =>
      let covered := filter.apply manifest
      if covered.isMapping then .ok ⟨write covered.sortKeys⟩
      else .error (.internal "filtered manifest is not a mapping")

/-- The digest of a manifest under a domain. -/
def digestManifest : (manifest : Document) → (domain : String) →
    Except SignatureError ManifestDigest :=
  digestManifestWith Yaml.write

end BundleTrust
