import BundleTrust.Signature.Digest

/-!
# Signing manifests

A signature covers the digest of a manifest and is kept in an annotation of it.  What is
exported is the manifest with its signature and without the fields that a cluster assigns.
-/

namespace BundleTrust

/-- How a change in place ends. -/
structure Edited (Value : Type) where
  /-- Whether it succeeds. -/
  outcome : Except SignatureError Unit
  /-- What it leaves, also where it fails. -/
  value : Value
  deriving DecidableEq, Repr

/-- Make a mapping of nothing and of null under a key. -/
def openMapping (members : Members) (key : String) : Members :=
  match Members.get? members key with
  | none => Members.insert key (.mapping []) members
  | some .null => Members.insert key (.mapping []) members
  | some _ => members

/-- Change the mapping under a key in place. -/
def editUnder (key : String) (failure : SignatureError) (edit : Members → Edited Members)
    (members : Members) : Edited Members :=
  let opened := openMapping members key
  match Members.get? opened key with
  | some (.mapping inner) =>
      let edited := edit inner
      ⟨edited.outcome, Members.insert key (.mapping edited.value) opened⟩
  | _ => ⟨.error failure, opened⟩

/-- Set an annotation of a manifest in place. -/
def annotate (key value : String) : Document → Edited Document
  | .mapping root =>
      let insertText (annotations : Members) : Edited Members :=
        ⟨.ok (), Members.insert key (.text value) annotations⟩
      let editMetadata :=
        editUnder "annotations" (.document "annotations must be a mapping") insertText
      let edited := editUnder "metadata" (.document "metadata must be a mapping") editMetadata root
      ⟨edited.outcome, .mapping edited.value⟩
  | document => ⟨.error (.document "manifest must be a mapping"), document⟩

/-- Set an annotation of a manifest. -/
def setAnnotation (manifest : Document) (key value : String) :
    Except SignatureError Document :=
  let edited := annotate key value manifest
  edited.outcome.map fun _ => edited.value

/-- The mapping that stands under a key of a mapping, where nothing and null count as the
empty one. -/
def mappingAt (members : Members) (key : String) (failure : SignatureError) :
    Except SignatureError Members :=
  match Members.get? members key with
  | none => .ok []
  | some .null => .ok []
  | some (.mapping inner) => .ok inner
  | some _ => .error failure

/-- What stands under a key is changed and put back; where it is no mapping, nothing changes. -/
theorem editUnder_eq
    (key : String)
    (failure : SignatureError)
    (edit : Members → Edited Members)
    (members : Members) :
    editUnder key failure edit members =
      match mappingAt members key failure with
      | .error failure => ⟨.error failure, members⟩
      | .ok inner =>
          ⟨(edit inner).outcome, Members.insert key (.mapping (edit inner).value) members⟩ := by
  cases found : Members.get? members key with
  | none => simp [editUnder, openMapping, mappingAt, found, Members.insert_insert]
  | some held =>
      cases held <;> simp [editUnder, openMapping, mappingAt, found, Members.insert_insert]

/-- Setting an annotation puts back the annotations and the metadata that were there, or empty
ones. -/
theorem setAnnotation_mapping (root : Members) (key value : String) :
    setAnnotation (.mapping root) key value =
      match mappingAt root "metadata" (.document "metadata must be a mapping") with
      | .error failure => .error failure
      | .ok metadata =>
          match mappingAt metadata "annotations"
              (.document "annotations must be a mapping") with
          | .error failure => .error failure
          | .ok annotations =>
              let annotations := Members.insert key (.text value) annotations
              let metadata := Members.insert "annotations" (.mapping annotations) metadata
              .ok (.mapping (Members.insert "metadata" (.mapping metadata) root)) := by
  simp only [annotate, setAnnotation, editUnder_eq]
  cases mappingAt root "metadata" (.document "metadata must be a mapping") with
  | error failure => rfl
  | ok metadata =>
      cases found : mappingAt metadata "annotations"
          (.document "annotations must be a mapping") with
      | error failure => simp [found, Except.map]
      | ok annotations => simp [found, Except.map]

/-- A signed manifest. -/
structure SignedManifest where
  /-- The exported manifest with its signature. -/
  document : Document
  /-- The signature in base64. -/
  signature : String
  /-- The digest that the signature covers. -/
  digest : ManifestDigest
  deriving DecidableEq, Repr

/-- The canonical YAML of a signed manifest. -/
def SignedManifest.yaml (signed : SignedManifest) : String :=
  Yaml.writeCanonical signed.document

/-- A signature in base64, where one could be made. -/
def encodeSignature : Option Crypto.EcdsaSignature → Except SignatureError String
  | some signature => .ok (Text.encodeBase64 signature.toDer)
  | none => .error (.signing "no nonce suits")

/-- Sign a digest with a private key in PEM; the signature is given in base64. -/
def signDigest (digest : ManifestDigest) (pem : String) : Except SignatureError String :=
  (readPrivateKey pem).bind fun key => encodeSignature (key.sign? digest.octets)

/-- Sign a manifest under a domain with a private key in PEM. -/
def signManifest (manifest : Document) (pem domain : String) :
    Except SignatureError SignedManifest :=
  match digestManifest manifest domain with
  | .error failure => .error failure
  | .ok digest =>
      match signDigest digest pem with
      | .error failure => .error failure
      | .ok signature =>
          match setAnnotation manifest (signatureAnnotationKey domain) signature with
          | .error failure => .error failure
          | .ok annotated =>
              .ok ⟨DocumentFilter.serverAssigned.apply annotated, signature, digest⟩

/-- Sign a manifest given as YAML; the export is YAML too. -/
def signYaml (text pem domain : String) : Except SignatureError String :=
  match readManifest text with
  | .error failure => .error failure
  | .ok manifest => (signManifest manifest pem domain).map SignedManifest.yaml

end BundleTrust
