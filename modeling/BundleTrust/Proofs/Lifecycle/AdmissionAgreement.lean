import BundleTrust.Proofs.Bundle.Manifest
import BundleTrust.Proofs.Signature.SignThenVerify

/-!
# Admission and the lifecycle

Admission looks at a document as it is given; the lifecycle looks at the bundle that was read
of it, which is written again to be verified.  The two agree on every bundle as it is written
(`Bundle.isAllowed_toManifest_iff`).  They agree on a document as well if the same is covered of
it as of the bundle: then nothing was lost or filled in that is signed
(`admitted_iff_usable`).
-/

namespace BundleTrust

open Document FieldPath

/-! ## Admission -/

/-- A bundle is admitted exactly if its manifest is a mapping, its name spells a version and its
signature is valid. -/
theorem isAllowed_validateBundle_iff {manifest : Document} {domain : TrustDomain} :
    (validateBundle manifest domain).isAllowed ↔
      manifest.isMapping ∧ (BundleVersion.parse? (manifestName manifest)).isSome ∧
        ∃ verification, verifyManifest manifest domain = .ok verification ∧
          verification.isValid := by
  rw [validateBundle]
  cases manifest.isMapping with
  | false => simp [AdmissionDecision.isAllowed]
  | true =>
      simp only [Bool.not_true, Bool.false_eq_true, ↓reduceIte, true_and]
      cases BundleVersion.parse? (manifestName manifest) with
      | none => simp [AdmissionDecision.isAllowed, denyBundle]
      | some version =>
          cases verifyManifest manifest domain with
          | error failure => simp [AdmissionDecision.isAllowed, denyBundle]
          | ok verification =>
              cases valid : verification.isValid <;>
                simp [AdmissionDecision.isAllowed, denyBundle, valid]

/-- A bundle is signed if it was found valid. -/
theorem Bundle.isSigned_of_verify
    {bundle : Bundle}
    {domain : TrustDomain}
    {verification : Verification}
    (verified : bundle.verify domain = .ok verification) :
    bundle.isSigned domain = verification.isValid := by
  rw [isSigned, verified]

theorem Bundle.isSigned_iff {bundle : Bundle} {domain : TrustDomain} :
    bundle.isSigned domain ↔
      ∃ verification, bundle.verify domain = .ok verification ∧ verification.isValid := by
  cases verified : bundle.verify domain with
  | error failure => simp [isSigned, verified]
  | ok verification => simp [isSigned_of_verify verified]

/-! ## The lifecycle -/

/-- The states of bundles that can be used. -/
def BundleState.IsUsable (state : BundleState) : Prop :=
  state = .active ∨ state = .inactive ∨ state = .upgradeAvailable

instance (state : BundleState) : Decidable state.IsUsable :=
  inferInstanceAs (Decidable (_ ∨ _))

/-- A bundle is in the namespace of a context, and if its name spells a version, the server
accepts that. -/
structure LifecycleContext.Suits (context : LifecycleContext) (bundle : Bundle) : Prop where
  space_eq : bundle.space = context.space
  accepts : ∀ version, BundleVersion.parse? bundle.name = some version →
    context.server.accepts version = true

/-- In a context that suits it, a bundle can be used exactly if its name spells a version and it
is signed. -/
theorem LifecycleContext.Suits.isUsable_iff
    {context : LifecycleContext}
    {bundle : Bundle}
    (suits : context.Suits bundle) :
    (bundle.evaluateState context).IsUsable ↔
      (BundleVersion.parse? bundle.name).isSome ∧ bundle.isSigned context.domain := by
  rw [Bundle.evaluateState, if_neg (not_not_intro suits.space_eq)]
  cases parsed : BundleVersion.parse? bundle.name with
  | none => simp [BundleState.IsUsable]
  | some version =>
      simp only [suits.accepts version parsed, Bool.not_true, Bool.false_eq_true, ↓reduceIte,
        Option.isSome_some, true_and]
      cases bundle.isSigned context.domain with
      | false => simp [BundleState.IsUsable]
      | true =>
          cases context.isActive with
          | false => simp [BundleState.IsUsable]
          | true =>
              simp only [Bool.not_true, Bool.false_eq_true, ↓reduceIte, iff_true]
              split <;> simp [BundleState.IsUsable]

/-- In a context that suits it, a bundle with a proper name that is not signed is invalid. -/
theorem LifecycleContext.Suits.evaluateState_eq_invalid
    {context : LifecycleContext}
    {bundle : Bundle}
    (suits : context.Suits bundle)
    (named : (BundleVersion.parse? bundle.name).isSome)
    (unsigned : bundle.isSigned context.domain = false) :
    bundle.evaluateState context = .invalid := by
  obtain ⟨version, parsed⟩ := Option.isSome_iff_exists.1 named
  simp [Bundle.evaluateState, suits.space_eq, parsed, suits.accepts version parsed, unsigned]

/-- The manifest of a bundle is admitted exactly if the bundle can be used. -/
theorem Bundle.isAllowed_toManifest_iff
    {context : LifecycleContext}
    {bundle : Bundle}
    (suits : context.Suits bundle) :
    (validateBundle bundle.toManifest context.domain).isAllowed ↔
      (bundle.evaluateState context).IsUsable := by
  obtain ⟨members, isMetadata, -⟩ := bundle.exists_metadata_toManifest
  rw [isAllowed_validateBundle_iff, suits.isUsable_iff, Bundle.isSigned_iff,
    manifestName_toManifest, isMapping_of_get? isMetadata]
  exact and_iff_right rfl

/-! ## Documents of which the same is covered -/

/-- A document without annotations of which the same is covered as of another one, which may have
an excludes list of its own. -/
theorem exists_coveredWith_eq
    {document other : Document}
    {domain : String}
    (unannotated : ∀ key, annotation? document key = none)
    (same : coveredView document domain = coveredView other domain) :
    ∃ listed, coveredWith [] (declarationKeys domain) document =
      coveredWith listed (declarationKeys domain) other := by
  have nothingListed : readExcludes document domain = .ok [] := by
    rw [readExcludes, unannotated]
  rw [coveredView, coveredView, nothingListed] at same
  cases listed : readExcludes other domain with
  | error failure => rw [listed] at same; cases same
  | ok paths => rw [listed] at same; exact ⟨paths, Except.ok.inj same⟩

/-- The metadata as a whole are covered where nothing is listed. -/
theorem isUncovered_metadata_nil (kept : List String) :
    isUncovered [] kept [.key "metadata"] = false := by
  simp [isUncovered, isForeign, extendsAny, DocumentFilter.serverAssignedPaths, ofKeys,
    List.isPrefixOf]

/-- A document of which the same is covered as of a bundle has no lists in place of mappings: it
would have no annotations then, so that nothing of it were left out. -/
theorem Bundle.isPlain_of_coveredView_eq
    {document : Document}
    {bundle : Bundle}
    {domain : String}
    (same : coveredView document domain = coveredView bundle.toManifest domain) :
    Bundle.IsPlain document := by
  obtain ⟨members, isMetadata, -⟩ := bundle.exists_metadata_toManifest
  constructor
  · cases mapping : document.isMapping with
    | true => rfl
    | false =>
        have absent := get?_of_not_isMapping mapping
        obtain ⟨listed, view⟩ := exists_coveredWith_eq (by simp [annotation?, absent]) same
        have shapes := congrArg isMapping view
        rw [isMapping_coveredWith, isMapping_coveredWith, mapping,
          isMapping_of_get? isMetadata] at shapes
        exact shapes
  · intro metadata found
    cases mapping : metadata.isMapping with
    | true => rfl
    | false =>
        have absent := get?_of_not_isMapping mapping
        obtain ⟨listed, view⟩ := exists_coveredWith_eq (by simp [annotation?, found, absent]) same
        have shapes := congrArg (fun view : Document => (view.get? "metadata").map isMapping) view
        simp only [isMapping_metadata_coveredWith, isUncovered_metadata_nil, found, isMetadata,
          Option.map_some, mapping, Bool.false_eq_true, ↓reduceIte] at shapes
        split at shapes <;> cases shapes

/-! ## Agreement -/

/-- What is decided about a document of which the same is covered as of the bundle that is read of
it is what is decided about the manifest of the bundle. -/
theorem validateBundle_eq_toManifest
    {document : Document}
    {bundle : Bundle}
    {domain : TrustDomain}
    (sorted : document.Sorted)
    (read : Bundle.ofDocument? document = some bundle)
    (same : coveredView document domain.name = coveredView bundle.toManifest domain.name) :
    validateBundle document domain = validateBundle bundle.toManifest domain := by
  have plain := Bundle.isPlain_of_coveredView_eq same
  obtain ⟨name, annotations⟩ := Bundle.name_and_annotations_of_ofDocument? sorted plain read
  obtain ⟨members, isMetadata, -⟩ := bundle.exists_metadata_toManifest
  have verified : verifyManifest document domain = verifyManifest bundle.toManifest domain :=
    verifyManifest_congr sorted bundle.sorted_toManifest
      (by rw [annotations, Bundle.annotation?_toManifest]) same
  simp only [validateBundle, plain.isMapping, isMapping_of_get? isMetadata, name,
    Bundle.manifestName_toManifest, verified]

/-- A bundle can be used exactly if it is admitted as it is written, and exactly if the document
that it was read of is admitted, where the same is covered of that document as of the bundle. -/
theorem admitted_iff_usable
    {document : Document}
    {bundle : Bundle}
    {context : LifecycleContext}
    (sorted : document.Sorted)
    (read : Bundle.ofDocument? document = some bundle)
    (suits : context.Suits bundle) :
    ((validateBundle bundle.toManifest context.domain).isAllowed ↔
        (bundle.evaluateState context).IsUsable) ∧
      (coveredView document context.domain.name =
          coveredView bundle.toManifest context.domain.name →
        ((validateBundle document context.domain).isAllowed ↔
          (bundle.evaluateState context).IsUsable)) := by
  refine ⟨Bundle.isAllowed_toManifest_iff suits, fun same => ?_⟩
  rw [validateBundle_eq_toManifest sorted read same]
  exact Bundle.isAllowed_toManifest_iff suits

namespace SignedExample

/-- A bundle with a signature. -/
def signedBundle (signature : Crypto.EcdsaSignature) : Bundle where
  apiVersion := apiVersionText
  kind := ResourceKind.bundle.name
  metadata :=
    { Metadata.named "eksa-packages" "v1-21-1003" with
      annotations := TextMap.empty.insert "eksa.aws.com/signature"
        (Text.encodeBase64 signature.toDer) }
  packages := []
  state := none

/-- A document of that bundle, with other members in its spec and a status. -/
def signedDocument (signature : Crypto.EcdsaSignature) (spec status : Members) : Document :=
  .mapping [
    ("apiVersion", .text apiVersionText),
    ("kind", .text ResourceKind.bundle.name),
    ("metadata", .mapping [
      ("annotations", .mapping [
        ("eksa.aws.com/signature", .text (Text.encodeBase64 signature.toDer))]),
      ("name", .text "v1-21-1003"),
      ("namespace", .text "eksa-packages")]),
    ("spec", .mapping (spec ++ [("packages", .list [])])),
    ("status", .mapping status)]

/-- What is covered of the bundle in a namespace, with other members in its spec. -/
def signedView (space : String) (spec : Members) : Document :=
  .mapping [
    ("apiVersion", .text apiVersionText),
    ("kind", .text ResourceKind.bundle.name),
    ("metadata", .mapping [("name", .text "v1-21-1003"), ("namespace", .text space)]),
    ("spec", .mapping (spec ++ [("packages", .list [])]))]

/-- A bundle that is not in use, on a cluster of version 1.21. -/
def context : LifecycleContext where
  space := "eksa-packages"
  server := ⟨"1", "21"⟩
  domain := trust
  isActive := false
  bundles := []

theorem suits_context (signature : Crypto.EcdsaSignature) :
    context.Suits (signedBundle signature) where
  space_eq := rfl
  accepts version parsed := by
    have spelled : BundleVersion.parse? "v1-21-1003" = some version := parsed
    have accepted : (BundleVersion.parse? "v1-21-1003").all context.server.accepts = true := by
      decide
    rw [spelled] at accepted
    exact accepted

/-- The signatures that are valid for a view. -/
abbrev ValidSignature (view : Document) : Type :=
  { signature : Crypto.EcdsaSignature //
    publicKey.verifies (ManifestDigest.octets ⟨Yaml.write view⟩) signature = true }

/-- The signature of the bundle by the private key one. -/
def bundleSignature : ValidSignature (signedView "eksa-packages" []) where
  val :=
    { r := 114844381994294892214565181245405668249885838506076450453371729578330367943409
      s := 82389285722985831552011439286178011426522740893725446511804201890215636532706 }
  property := by
    rw [Crypto.PublicKey.verifies_eq]
    decide +kernel

theorem verify_bundleSignature :
    (signedBundle bundleSignature).verify trust =
      .ok ⟨true, ⟨Yaml.write (signedView "eksa-packages" [])⟩⟩ :=
  verifyManifest_eq_ok (Bundle.sorted_toManifest _) rfl (by decide) (by decide)
    (by decide +kernel) (by decide +kernel) verifyingKey_trust bundleSignature.property

/-- A document with a member in its status that no bundle has is admitted, and the bundle that is
read of it can be used. -/
theorem noted_admitted_and_usable :
    Bundle.ofDocument? (signedDocument bundleSignature [] [("note", .text "new")]) =
        some (signedBundle bundleSignature) ∧
      (validateBundle (signedDocument bundleSignature [] [("note", .text "new")])
        trust).isAllowed ∧
      ((signedBundle bundleSignature).evaluateState context).IsUsable := by
  have read : Bundle.ofDocument? (signedDocument bundleSignature [] [("note", .text "new")]) =
      some (signedBundle bundleSignature) := by decide +kernel
  have usable : ((signedBundle bundleSignature).evaluateState context).IsUsable :=
    (suits_context bundleSignature).isUsable_iff.2
      ⟨by decide, Bundle.isSigned_of_verify verify_bundleSignature⟩
  have agreement : (validateBundle _ context.domain).isAllowed ↔ _ :=
    (admitted_iff_usable (by decide +kernel) read (suits_context bundleSignature)).2
      (by decide +kernel)
  exact ⟨read, agreement.2 usable, usable⟩

/-- The signature of a document with a member in its spec that no bundle has. -/
def extendedSignature :
    ValidSignature (signedView "eksa-packages" [("minimumVersion", .text "v1.2")]) where
  val :=
    { r := 36131413594927600479486250659883599358057017705574623814048795506887079823814
      s := 65501297692726612179281946444919643123575058260031199714414755580451527401158 }
  property := by
    rw [Crypto.PublicKey.verifies_eq]
    decide +kernel

/-- That document. -/
def extended : Document :=
  signedDocument extendedSignature [("minimumVersion", .text "v1.2")] []

theorem not_verifies_extendedSignature :
    publicKey.verifies (ManifestDigest.octets ⟨Yaml.write (signedView "eksa-packages" [])⟩)
      extendedSignature = false := by
  rw [Crypto.PublicKey.verifies_eq]
  decide +kernel

/-- The document is admitted, but the bundle that is read of it is not valid. -/
theorem extended_admitted_but_invalid :
    extended.Sorted ∧
      Bundle.ofDocument? extended = some (signedBundle extendedSignature) ∧
      context.Suits (signedBundle extendedSignature) ∧
      (validateBundle extended trust).isAllowed = true ∧
      (signedBundle extendedSignature).evaluateState context = .invalid := by
  have sorted : extended.Sorted := by decide +kernel
  have admitted : verifyManifest extended trust = .ok ⟨true, ⟨Yaml.write
      (signedView "eksa-packages" [("minimumVersion", .text "v1.2")])⟩⟩ := by
    exact verifyManifest_eq_ok sorted rfl (by decide) (by decide) (by decide +kernel)
      (by decide +kernel) verifyingKey_trust extendedSignature.property
  have refused : (signedBundle extendedSignature).verify trust =
      .ok ⟨false, ⟨Yaml.write (signedView "eksa-packages" [])⟩⟩ := by
    exact verifyManifest_eq_ok (Bundle.sorted_toManifest _) rfl (by decide) (by decide)
      (by decide +kernel) (by decide +kernel) verifyingKey_trust not_verifies_extendedSignature
  refine ⟨sorted, by decide +kernel, suits_context extendedSignature,
    isAllowed_validateBundle_iff.2 ⟨rfl, by decide +kernel, _, admitted, rfl⟩, ?_⟩
  exact (suits_context extendedSignature).evaluateState_eq_invalid (by decide)
    (Bundle.isSigned_of_verify refused)

end SignedExample

end BundleTrust
