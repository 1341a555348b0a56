import BundleTrust.Lifecycle.Evaluation
import BundleTrust.Proofs.Bundle.RoundTrip
import BundleTrust.Proofs.Signature.Annotations
import BundleTrust.Proofs.Signature.EqualViews

/-!
# Signed bundles

What is exported of a signed bundle is again the manifest of a bundle: that of the bundle with its
signature and without its state and what a cluster assigns (`document_eq_toManifest`).  What a
signature covers of a bundle depends neither on these nor on foreign annotations
(`SameSigned.coveredWith_eq`), so an export that was read back stays valid when they change.
-/

namespace BundleTrust

open Document FieldPath

/-! ## What a cluster assigns -/

namespace Metadata

/-- The keys of what a cluster assigns. -/
def assignedKeys : List String :=
  ["creationTimestamp", "generation", "managedFields", "uid", "resourceVersion"]

/-- Metadata without what a cluster assigns. -/
def unassigned (metadata : Metadata) : Metadata :=
  { metadata with
    creationTimestamp := none
    generation := none
    managedFields := none
    uid := none
    resourceVersion := none }

theorem get?_toDocument_unassigned (metadata : Metadata) (key : String) :
    metadata.unassigned.toDocument.get? key =
      if key ∈ assignedKeys then none else metadata.toDocument.get? key := by
  split
  · next assigned =>
      simp only [assignedKeys, List.mem_cons, List.not_mem_nil, or_false] at assigned
      rcases assigned with rfl | rfl | rfl | rfl | rfl <;>
        simp [unassigned, toDocument, Document.get?, Members.ofText]
  · next kept =>
      simp only [assignedKeys, List.mem_cons, List.not_mem_nil, or_false, not_or] at kept
      simp [unassigned, toDocument, Document.get?, Members.ofText, kept]

/-- Metadata with other annotations. -/
def withAnnotations (metadata : Metadata) (annotations : TextMap) : Metadata :=
  { metadata with annotations := annotations }

/-- Metadata with other annotations have the same under every other key. -/
theorem get?_toDocument_withAnnotations
    {metadata : Metadata}
    {key : String}
    (annotations : TextMap)
    (different : key ≠ "annotations") :
    (metadata.withAnnotations annotations).toDocument.get? key =
      metadata.toDocument.get? key := by
  simp [withAnnotations, toDocument, Document.get?, Members.ofText, different]

end Metadata

/-- Of the fields of the metadata those are left out that a cluster assigns. -/
theorem extendsAny_serverAssignedPaths_child (key : String) (rest : FieldPath) :
    extendsAny DocumentFilter.serverAssignedPaths (.key "metadata" :: .key key :: rest) =
      decide (key ∈ Metadata.assignedKeys) := by
  rw [Bool.eq_iff_iff]
  simp [extendsAny, DocumentFilter.serverAssignedPaths, ofKeys, List.isPrefixOf,
    Metadata.assignedKeys, @eq_comm String key]

/-- Beside the metadata only the status is left out. -/
theorem extendsAny_serverAssignedPaths_top
    {key : String}
    (outside : key ≠ "metadata")
    (rest : FieldPath) :
    extendsAny DocumentFilter.serverAssignedPaths (.key key :: rest) = decide (key = "status") := by
  rw [Bool.eq_iff_iff]
  simp [extendsAny, DocumentFilter.serverAssignedPaths, ofKeys, List.isPrefixOf, outside.symm,
    @eq_comm String key]

/-- Sorted documents are the same if they answer alike beside their metadata and in them. -/
theorem Document.Sorted.ext_metadata
    {document other : Document}
    {members others : Members}
    (sorted : document.Sorted)
    (sorted' : other.Sorted)
    (isMetadata : document.get? "metadata" = some (.mapping members))
    (isMetadata' : other.get? "metadata" = some (.mapping others))
    (outside : ∀ key, key ≠ "metadata" → document.get? key = other.get? key)
    (inside : ∀ key, Members.get? members key = Members.get? others key) :
    document = other := by
  refine sorted.ext sorted' (isMapping_of_get? isMetadata) (isMapping_of_get? isMetadata')
    fun key => ?_
  by_cases here : key = "metadata"
  · rw [here, isMetadata, isMetadata', (sorted.ascending_of_get? isMetadata).ext
      (sorted'.ascending_of_get? isMetadata') inside]
  · exact outside key here

/-! ## Annotations as they are written -/

namespace TextMap

theorem toDocument_insert (map : TextMap) (key value : String) :
    (map.insert key value).toDocument =
      .mapping (Members.insert key (.text value)
        (map.entries.map fun entry => (entry.1, .text entry.2))) := by
  refine Sorted.ext (sorted_toDocument _)
    (Sorted.insert map.sorted_toDocument (by simp [Sorted]) key) rfl rfl fun name => ?_
  have found := map.get?_toDocument name
  rw [toDocument, Document.get?] at found
  rw [get?_toDocument, get?, insert, Members.get?_insert, Document.get?, Members.get?_insert,
    found]
  split <;> rfl

/-- An annotation that was set is there. -/
theorem isEmpty_insert (map : TextMap) (key value : String) :
    (map.insert key value).isEmpty = false := by
  have found : (map.insert key value).get? key = some value := by simp [get?, insert]
  cases isEmpty : (map.insert key value).isEmpty with
  | false => rfl
  | true =>
      rw [eq_empty_of_isEmpty isEmpty] at found
      cases found

end TextMap

namespace Bundle

variable (bundle : Bundle)

/-- The annotations of a manifest are those of its bundle. -/
theorem annotationsOf_toManifest :
    .mapping (annotationsOf bundle.toManifest) = bundle.metadata.annotations.toDocument := by
  rw [annotationsOf, get?_metadata_toManifest, Option.bind_some,
    Metadata.get?_sortKeys_toDocument, Metadata.sortKeys_annotations_toDocument]
  split
  · next isEmpty =>
      rw [TextMap.eq_empty_of_isEmpty isEmpty]
      rfl
  · rfl

/-- A bundle without its state and what a cluster assigns. -/
def unassigned : Bundle :=
  { bundle with metadata := bundle.metadata.unassigned, state := none }

/-- A bundle with other annotations. -/
def withAnnotations (annotations : TextMap) : Bundle :=
  { bundle with metadata := bundle.metadata.withAnnotations annotations }

/-- A bundle as it is exported under a domain: with its signature, and without its state and what
a cluster assigns. -/
def exported (domain signature : String) : Bundle :=
  bundle.unassigned.withAnnotations
    (bundle.metadata.annotations.insert (signatureAnnotationKey domain) signature)

/-- Leaving out server-assigned fields of a manifest is to leave them out of the bundle. -/
theorem apply_serverAssigned_toManifest :
    DocumentFilter.serverAssigned.apply bundle.toManifest = bundle.unassigned.toManifest := by
  obtain ⟨members, isMetadata, lookup⟩ := bundle.exists_metadata_toManifest
  obtain ⟨others, isMetadata', lookup'⟩ := bundle.unassigned.exists_metadata_toManifest
  have exportSorted : (DocumentFilter.serverAssigned.apply bundle.toManifest).Sorted := by
    rw [apply_serverAssigned]
    exact Sorted.without _ _ bundle.sorted_toManifest
  refine exportSorted.ext_metadata bundle.unassigned.sorted_toManifest
    (get?_metadata_export isMetadata) isMetadata' (fun key outside => ?_) fun key => ?_
  · rw [apply_serverAssigned, get?_without, get?_toManifest, get?_toManifest]
    simp only [extendsAny_serverAssignedPaths_top outside, decide_eq_true_eq]
    by_cases isStatus : key = "status"
    · simp [isStatus, unassigned, toDocument, Document.get?]
    · simp [isStatus, outside, unassigned, toDocument, Document.get?, Function.comp_def]
  · rw [get?_withoutMembers, lookup, lookup']
    simp only [extendsAny_serverAssignedPaths_child, unassigned,
      Metadata.get?_toDocument_unassigned, decide_eq_true_eq]
    split
    · rfl
    · next kept => simp [kept, Function.comp_def]

/-- Setting annotations of a manifest is to set them in the bundle. -/
theorem putAnnotations_toManifest
    {annotations : TextMap}
    {entries : Members}
    (nonempty : annotations.isEmpty = false)
    (written : annotations.toDocument = .mapping entries) :
    putAnnotations entries bundle.toManifest = (bundle.withAnnotations annotations).toManifest := by
  obtain ⟨members, isMetadata, lookup⟩ := bundle.exists_metadata_toManifest
  obtain ⟨others, isMetadata', lookup'⟩ :=
    (bundle.withAnnotations annotations).exists_metadata_toManifest
  have entriesSorted := annotations.sorted_toDocument
  rw [written] at entriesSorted
  have putSorted : (putAnnotations entries bundle.toManifest).Sorted :=
    bundle.sorted_toManifest.changeMetadata fun metadata isSorted =>
      Sorted.insert isSorted entriesSorted _
  refine putSorted.ext_metadata (bundle.withAnnotations annotations).sorted_toManifest
    (get?_metadata_putAnnotations isMetadata) isMetadata' (fun key outside => ?_) fun key => ?_
  · rw [get?_putAnnotations, if_neg outside, get?_toManifest, get?_toManifest]
    simp [withAnnotations, toDocument, Document.get?, outside]
  · rw [Members.get?_insert, lookup, lookup', withAnnotations]
    split
    · next isAnnotations =>
        rw [isAnnotations, Metadata.sortKeys_annotations_toDocument, Metadata.withAnnotations]
        simp [nonempty, written]
    · next different => rw [Metadata.get?_toDocument_withAnnotations _ different]

variable {bundle} {domain : String}

/-- What is exported of a signed bundle is the manifest of a bundle. -/
theorem document_eq_toManifest
    {pem : String}
    {signed : SignedManifest}
    (signs : signManifest bundle.toManifest pem domain = .ok signed) :
    signed.document = (bundle.exported domain signed.signature).toManifest := by
  obtain ⟨annotated, -, -, set, isExport⟩ := signManifest_eq_ok_iff.1 signs
  obtain ⟨members, isMetadata, -⟩ := bundle.exists_metadata_toManifest
  have sorted := bundle.sorted_toManifest
  have isHeld : annotationsOf bundle.toManifest =
      bundle.metadata.annotations.entries.map fun entry => (entry.1, .text entry.2) :=
    mapping.inj bundle.annotationsOf_toManifest
  calc
    signed.document = DocumentFilter.serverAssigned.apply annotated := isExport
    _ = putAnnotations (Members.insert (signatureAnnotationKey domain) (.text signed.signature)
          (annotationsOf bundle.toManifest)) bundle.unassigned.toManifest := by
      rw [annotated_eq_putAnnotations set sorted isMetadata, apply_putAnnotations sorted,
        apply_serverAssigned_toManifest]
    _ = (bundle.exported domain signed.signature).toManifest :=
      bundle.unassigned.putAnnotations_toManifest (TextMap.isEmpty_insert _ _ _)
        (by rw [TextMap.toDocument_insert, isHeld])

/-- Annotations can be set in the manifest of a bundle. -/
theorem exists_annotated_toManifest (bundle : Bundle) (key value : String) :
    ∃ annotated, setAnnotation bundle.toManifest key value = .ok annotated := by
  obtain ⟨members, isMetadata, lookup⟩ := bundle.exists_metadata_toManifest
  obtain ⟨root, isRoot⟩ := isMapping_iff.1 (isMapping_of_get? isMetadata)
  rw [isRoot] at isMetadata ⊢
  change Members.get? root "metadata" = _ at isMetadata
  have isAnnotations := lookup "annotations"
  rw [Metadata.sortKeys_annotations_toDocument] at isAnnotations
  split at isAnnotations <;>
    simp [setAnnotation_mapping, mappingAt, isMetadata, isAnnotations, TextMap.toDocument]

/-- A bundle is signed wherever its digest can be made and signed. -/
theorem signManifest_toManifest
    {pem signature : String}
    {digest : ManifestDigest}
    (digested : digestManifest bundle.toManifest domain = .ok digest)
    (made : signDigest digest pem = .ok signature) :
    signManifest bundle.toManifest pem domain =
      .ok ⟨(bundle.exported domain signature).toManifest, signature, digest⟩ := by
  obtain ⟨annotated, set⟩ :=
    bundle.exists_annotated_toManifest (signatureAnnotationKey domain) signature
  have signs : signManifest bundle.toManifest pem domain =
      .ok ⟨DocumentFilter.serverAssigned.apply annotated, signature, digest⟩ :=
    signManifest_eq_ok_iff.2 ⟨annotated, digested, made, set, rfl⟩
  have isExported : DocumentFilter.serverAssigned.apply annotated =
      (bundle.exported domain signature).toManifest := document_eq_toManifest signs
  rw [signs, isExported]

end Bundle

/-! ## What a signature covers of a bundle -/

/-- Bundles that differ at most in their states, in what a cluster assigns and in annotations that
do not belong to a domain. -/
structure Bundle.SameSigned (domain : String) (bundle other : Bundle) : Prop where
  /-- They have the same version of the form of the document. -/
  apiVersion : other.apiVersion = bundle.apiVersion
  /-- They have the same kind. -/
  kind : other.kind = bundle.kind
  /-- They have the same name. -/
  name : other.name = bundle.name
  /-- They are in the same namespace. -/
  space : other.space = bundle.space
  /-- They have the same labels. -/
  labels : other.metadata.labels = bundle.metadata.labels
  /-- They have the same packages. -/
  packages : other.packages = bundle.packages
  /-- They have the same signature, includes and excludes. -/
  annotations : ∀ key ∈ signatureAnnotationKey domain :: declarationKeys domain,
    other.metadata.annotations.get? key = bundle.metadata.annotations.get? key

/-- Annotations that are empty are left out of a view, whether they are written or not. -/
theorem TextMap.filter_isVacant
    (map : TextMap)
    (isExcluded : FieldPath → Bool) :
    ((if map.isEmpty then none else some map.toDocument).map (without isExcluded)).filter
        (fun value => !isVacant value) =
      (some (map.toDocument.without isExcluded)).filter fun value => !isVacant value := by
  split
  · next isEmpty =>
      rw [eq_empty_of_isEmpty isEmpty]
      rfl
  · rfl

/-- Annotations are covered alike if those are alike that are kept. -/
theorem TextMap.without_congr
    {map other : TextMap}
    {isExcluded : FieldPath → Bool}
    (alike : ∀ key, isExcluded [.key key] = false → map.get? key = other.get? key) :
    map.toDocument.without isExcluded = other.toDocument.without isExcluded := by
  refine Sorted.ext (Sorted.without _ _ map.sorted_toDocument)
    (Sorted.without _ _ other.sorted_toDocument) (by rw [isMapping_without]; rfl)
    (by rw [isMapping_without]; rfl) fun key => ?_
  rw [get?_without, get?_without]
  split
  · rfl
  · next kept => rw [get?_toDocument, get?_toDocument, alike key (by simpa using kept)]

/-- An annotation that is covered is kept. -/
theorem mem_of_covered
    {listed : List FieldPath}
    {kept : List String}
    {key : String}
    (covered : isUncovered listed kept [.key "metadata", .key "annotations", .key key] = false) :
    key ∈ kept := by
  simpa [isForeign] using (Bool.or_eq_false_iff.1 covered).2

namespace Bundle.SameSigned

variable {domain : String} {bundle other : Bundle} {listed : List FieldPath}

/-- Outside the annotations, what is covered of the metadata is the same. -/
theorem get?_metadata
    (same : SameSigned domain bundle other)
    {key : String}
    (notAssigned : key ∉ Metadata.assignedKeys)
    (different : key ≠ "annotations") :
    other.metadata.toDocument.get? key = bundle.metadata.toDocument.get? key := by
  have sameName : other.metadata.name = bundle.metadata.name := same.name
  have sameSpace : other.metadata.space = bundle.metadata.space := same.space
  simp only [Metadata.assignedKeys, List.mem_cons, List.not_mem_nil, or_false, not_or]
    at notAssigned
  simp [Metadata.toDocument, Document.get?, Members.ofText, notAssigned, different, sameName,
    sameSpace, same.labels]

/-- The same is covered of both bundles. -/
theorem coveredWith_eq (same : SameSigned domain bundle other) :
    coveredWith listed (declarationKeys domain) other.toManifest =
      coveredWith listed (declarationKeys domain) bundle.toManifest := by
  obtain ⟨members, isMetadata, lookup⟩ := other.exists_metadata_toManifest
  obtain ⟨others, isMetadata', lookup'⟩ := bundle.exists_metadata_toManifest
  have sorted := other.sorted_toManifest
  have sorted' := bundle.sorted_toManifest
  refine coveredWith_eq_of_metadata sorted sorted' isMetadata isMetadata'
    (fun key outside covered => ?_) ?_
  · rw [get?_toManifest, get?_toManifest]
    have notStatus : key ≠ "status" := by
      rintro rfl
      exact absurd covered (by rw [isUncovered_of_server (by decide)]; decide)
    simp [toDocument, Document.get?, outside, notStatus, same.apiVersion, same.kind, same.packages]
  · refine (ascending_dropVacantAnnotations
      (ascending_withoutMembers (sorted.ascending_of_get? isMetadata))).ext
      (ascending_dropVacantAnnotations
        (ascending_withoutMembers (sorted'.ascending_of_get? isMetadata'))) fun key => ?_
    rw [get?_dropVacantAnnotations, get?_dropVacantAnnotations, get?_withoutMembers,
      get?_withoutMembers, lookup, lookup']
    by_cases here : key = "annotations"
    · subst here
      rw [if_pos rfl, if_pos rfl, Metadata.sortKeys_annotations_toDocument,
        Metadata.sortKeys_annotations_toDocument]
      split
      · rfl
      · rw [TextMap.filter_isVacant, TextMap.filter_isVacant,
          TextMap.without_congr fun key covered =>
            same.annotations key (List.mem_cons_of_mem _ (mem_of_covered covered))]
    · rw [if_neg here, if_neg here]
      split
      · rfl
      · next covered =>
          rw [same.get?_metadata (fun assigned => covered (isUncovered_of_server ?_)) here]
          rw [extendsAny_serverAssignedPaths_child, decide_eq_true assigned]

/-- Both bundles are verified alike. -/
theorem verify_eq
    {trust : TrustDomain}
    (same : SameSigned trust.name bundle other) :
    other.verify trust = bundle.verify trust := by
  have annotations (key : String) (signs : key ∈ signatureAnnotationKey trust.name ::
      declarationKeys trust.name) :
      annotation? other.toManifest key = annotation? bundle.toManifest key := by
    rw [annotation?_toManifest, annotation?_toManifest, same.annotations key signs]
  refine verifyManifest_congr other.sorted_toManifest bundle.sorted_toManifest
    (annotations _ (by simp)) ?_
  rw [coveredView, coveredView, readExcludes_congr (annotations _ (by simp [declarationKeys]))]
  simp only [same.coveredWith_eq]

end Bundle.SameSigned

/-! ## Signing and reading back -/

/-- What is exported of a signed bundle is read as that bundle with its signature, without its
state and what a cluster assigns.  It is valid under the matching key, and so it stays when its
state, what a cluster assigns and foreign annotations change. -/
theorem Bundle.signed_stays_valid
    {bundle : Bundle}
    {pem domain : String}
    {signed : SignedManifest}
    (signs : signManifest bundle.toManifest pem domain = .ok signed) :
    ofDocument? signed.document = some (bundle.exported domain signed.signature) ∧
      ∀ (trust : TrustDomain) (key : Crypto.PrivateKey) (publicKey : Crypto.PublicKey),
        trust.name = domain → readPrivateKey pem = .ok key →
        key.publicKey? = some publicKey → trust.verifyingKey = .ok publicKey →
        AcceptsOwnSignature key signed.digest.octets →
          (bundle.exported domain signed.signature).verify trust = .ok ⟨true, signed.digest⟩ ∧
            ∀ changed, SameSigned domain (bundle.exported domain signed.signature) changed →
              changed.verify trust = .ok ⟨true, signed.digest⟩ := by
  have isExported := document_eq_toManifest signs
  refine ⟨?_, fun trust key publicKey isDomain isKey matching verifying accepts => ?_⟩
  · rw [isExported]
    exact ofDocument?_toManifest nofun
  · obtain ⟨members, isMetadata, -⟩ := bundle.exists_metadata_toManifest
    obtain ⟨-, -, -, verifies⟩ := signed_manifest_verifies bundle.sorted_toManifest signs
    have valid : (bundle.exported domain signed.signature).verify trust =
        .ok ⟨true, signed.digest⟩ := by
      rw [verify, ← isExported]
      exact verifies ⟨members, isMetadata⟩ trust key publicKey isDomain isKey matching verifying
        accepts
    refine ⟨valid, fun changed same => ?_⟩
    subst isDomain
    rw [same.verify_eq, valid]

/-! ## A bundle that is signed, stored and changed -/

namespace StoredExample

open SignedExample

/-- A bundle in use, whose excludes list names the registry of its first package. -/
def bundle : Bundle where
  apiVersion := apiVersionText
  kind := ResourceKind.bundle.name
  metadata :=
    { Metadata.named "eksa-packages" "v1-21-1003" with
      annotations := .ofList [
        ("eksa.aws.com/excludes", "LnNwZWMucGFja2FnZXNbMF0uc291cmNlLnJlZ2lzdHJ5"),
        ("team", "platform")]
      generation := some 3
      uid := some "7d2c" }
  packages := [⟨"flux", ⟨"localhost", "charts/flux", [⟨"v1.0", "sha256:12", "", []⟩]⟩⟩]
  state := some .active

/-- What is covered of the bundle. -/
def view : Document :=
  .mapping [
    ("apiVersion", .text apiVersionText),
    ("kind", .text ResourceKind.bundle.name),
    ("metadata", .mapping [
      ("annotations", .mapping [
        ("eksa.aws.com/excludes", .text "LnNwZWMucGFja2FnZXNbMF0uc291cmNlLnJlZ2lzdHJ5")]),
      ("name", .text "v1-21-1003"),
      ("namespace", .text "eksa-packages")]),
    ("spec", .mapping [
      ("packages", .list [.mapping [
        ("name", .text "flux"),
        ("source", .mapping [
          ("repository", .text "charts/flux"),
          ("versions", .list [.mapping [
            ("digest", .text "sha256:12"),
            ("name", .text "v1.0")]])])]])])]

/-- The digest of the bundle. -/
def digest : ManifestDigest := ⟨Yaml.write view⟩

/-- Its octets. -/
def digestOctets : List UInt8 :=
  [66, 244, 214, 6, 174, 40, 108, 87, 119, 35, 223, 250, 198, 231, 188, 124,
    222, 247, 191, 210, 93, 182, 143, 56, 74, 133, 94, 26, 18, 87, 245, 132]

/-- The nonce that it is signed with. -/
def nonce : Crypto.FirstNonce key digestOctets where
  value := 25695677754961094917940890303462806628306300860640572511693981839847832469739
  drawn := by decide +kernel
  inRange := by decide

/-- Its signature. -/
def signature : Crypto.EcdsaSignature where
  r := 44177399141813401210812867669504544125690763467804766666354169050865248806704
  s := 98637814156422406709931721379336239045487610498611243983811329154221053705402

/-- The signature as it is written. -/
def signatureText : String := Text.encodeBase64 signature.toDer

theorem digestManifest_bundle : digestManifest bundle.toManifest "eksa.aws.com" = .ok digest :=
  (digestManifestWith_eq_ok_iff bundle.sorted_toManifest).2
    ⟨rfl, view, by decide +kernel, rfl⟩

theorem octets_digest : digest.octets = digestOctets := by decide +kernel

theorem sign?_digestOctets : key.sign? digestOctets = some signature :=
  Crypto.PrivateKey.sign?_eq_some nonce (by decide +kernel)

theorem signDigest_digest : signDigest digest keyText = .ok signatureText := by
  rw [signDigest, readPrivateKey_keyText, bind_ok_eq, octets_digest, sign?_digestOctets]
  rfl

theorem acceptsOwnSignature : AcceptsOwnSignature key digest.octets := by
  intro other made isPublic isSigned
  rw [octets_digest] at isSigned ⊢
  obtain rfl : publicKey = other := Option.some.inj (publicKey?_key.symm.trans isPublic)
  obtain rfl : signature = made := Option.some.inj (sign?_digestOctets.symm.trans isSigned)
  rw [Crypto.PublicKey.verifies_eq]
  decide +kernel

/-- The bundle as it was exported, after it got a state, a version and an annotation. -/
def changed : Bundle :=
  { bundle.exported "eksa.aws.com" signatureText with
    metadata :=
      { (bundle.exported "eksa.aws.com" signatureText).metadata with
        annotations :=
          (bundle.exported "eksa.aws.com" signatureText).metadata.annotations.insert "seen" "yes"
        resourceVersion := some "8" }
    state := some .upgradeAvailable }

theorem sameSigned_changed :
    Bundle.SameSigned "eksa.aws.com" (bundle.exported "eksa.aws.com" signatureText) changed where
  apiVersion := rfl
  kind := rfl
  name := rfl
  space := rfl
  labels := rfl
  packages := rfl
  annotations key signs := by
    have notSeen : key ≠ "seen" := by
      rintro rfl
      exact absurd signs (by decide)
    simp [changed, TextMap.get?, TextMap.insert, notSeen]

/-- The bundle is signed, is read back from what is exported, and is valid after the change. -/
theorem changed_valid :
    ∃ signed, signManifest bundle.toManifest keyText "eksa.aws.com" = .ok signed ∧
      Bundle.ofDocument? signed.document = some (bundle.exported "eksa.aws.com" signatureText) ∧
      changed.verify trust = .ok ⟨true, digest⟩ := by
  have signs := Bundle.signManifest_toManifest digestManifest_bundle signDigest_digest
  obtain ⟨isRead, verifies⟩ := Bundle.signed_stays_valid signs
  obtain ⟨-, stays⟩ := verifies trust key publicKey rfl readPrivateKey_keyText publicKey?_key
    verifyingKey_trust acceptsOwnSignature
  exact ⟨_, signs, isRead, stays changed sameSigned_changed⟩

end StoredExample

end BundleTrust
