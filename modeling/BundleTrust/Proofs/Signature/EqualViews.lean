import BundleTrust.Proofs.Signature.SignThenVerify

/-!
# Manifests of which the same is covered

A digest is made of the covered view and of nothing else, so manifests with equal views and
the same signature are verified alike (`verifyManifest_congr`).  Fields of the metadata that
are not covered may differ (`coveredWith_congr`), and a text that is covered is the same in
both (`text_of_coveredWith_eq`).
-/

namespace BundleTrust

namespace Document

@[simp] theorem isMapping_changeMembers (change : Members → Members) (document : Document) :
    (document.changeMembers change).isMapping = document.isMapping := by
  cases document <;> rfl

/-- The mappings in a sorted mapping have their keys in order. -/
theorem Sorted.ascending_of_get?
    {document : Document}
    {members : Members}
    {key : String}
    (sorted : document.Sorted)
    (found : document.get? key = some (.mapping members)) :
    Members.Ascending members := by
  obtain ⟨top, rfl⟩ := isMapping_iff.1 (isMapping_of_get? found)
  rw [Sorted] at sorted
  have inner := Sorted.of_get? sorted.2 found
  rw [Sorted] at inner
  exact inner.1

end Document

open Document FieldPath

variable {manifest other : Document} {domain : String} {listed : List FieldPath}
  {kept : List String}

/-! ## What depends on the view -/

/-- Manifests of which the same is covered have the same digest, or fail alike. -/
theorem digestManifest_eq_of_coveredView_eq
    (sorted : manifest.Sorted)
    (sorted' : other.Sorted)
    (same : coveredView manifest domain = coveredView other domain) :
    digestManifest manifest domain = digestManifest other domain := by
  simp only [coveredView] at same
  simp only [digestManifest, digestManifestWith, signingFilter]
  rcases listed : readExcludes manifest domain with failure | paths <;>
    rcases listed' : readExcludes other domain with failure' | paths' <;>
    rw [listed, listed'] at same
  · obtain rfl : failure = failure' := Except.error.inj same
    rfl
  · cases same
  · cases same
  · have view : coveredWith paths (declarationKeys domain) manifest =
        coveredWith paths' (declarationKeys domain) other := Except.ok.inj same
    simp only [Except.map, apply_eq_coveredWith sorted (readExcludes_ne_nil listed),
      apply_eq_coveredWith sorted' (readExcludes_ne_nil listed'), view]

/-- Manifests with the same signature of which the same is covered are verified alike. -/
theorem verifyManifest_congr
    {domain : TrustDomain}
    (sorted : manifest.Sorted)
    (sorted' : other.Sorted)
    (signature : annotation? manifest (signatureAnnotationKey domain.name) =
      annotation? other (signatureAnnotationKey domain.name))
    (same : coveredView manifest domain.name = coveredView other domain.name) :
    verifyManifest manifest domain = verifyManifest other domain := by
  rw [verifyManifest, verifyManifest, signature,
    digestManifest_eq_of_coveredView_eq sorted sorted' same]

/-- A manifest with a signature in its encoded form is verified against what is covered of it. -/
theorem verifyManifest_eq_ok
    {domain : TrustDomain}
    {signature : Crypto.EcdsaSignature}
    {key : Crypto.PublicKey}
    {view : Document}
    {isValid : Bool}
    (sorted : manifest.Sorted)
    (isMapping : manifest.isMapping = true)
    (first : Crypto.isScalar signature.r = true)
    (second : Crypto.isScalar signature.s = true)
    (signed : annotation? manifest (signatureAnnotationKey domain.name) =
      some (Text.encodeBase64 signature.toDer))
    (covered : coveredView manifest domain.name = .ok view)
    (readable : domain.verifyingKey = .ok key)
    (verdict : key.verifies (ManifestDigest.octets ⟨Yaml.write view⟩) signature = isValid) :
    verifyManifest manifest domain = .ok ⟨isValid, ⟨Yaml.write view⟩⟩ := by
  have digested : digestManifest manifest domain.name = .ok ⟨Yaml.write view⟩ :=
    (digestManifestWith_eq_ok_iff sorted).2 ⟨isMapping, view, covered, rfl⟩
  simp only [verifyManifest, signed, digested, Text.trim_encodeBase64,
    Text.decodeBase64_encodeBase64, readable, Crypto.EcdsaSignature.ofDer?_toDer first second,
    verdict]

/-! ## Fields of the metadata -/

/-- A view is made of the covered metadata and of the covered values beside them. -/
theorem coveredWith_eq_of_metadata
    {members others : Members}
    (sorted : manifest.Sorted)
    (sorted' : other.Sorted)
    (isMetadata : manifest.get? "metadata" = some (.mapping members))
    (isMetadata' : other.get? "metadata" = some (.mapping others))
    (outside : ∀ key, key ≠ "metadata" → isUncovered listed kept [.key key] = false →
      manifest.get? key = other.get? key)
    (inside :
      dropVacantAnnotations
          (withoutMembers (fun path => isUncovered listed kept (.key "metadata" :: path))
            members) =
        dropVacantAnnotations
          (withoutMembers (fun path => isUncovered listed kept (.key "metadata" :: path))
            others)) :
    coveredWith listed kept manifest = coveredWith listed kept other := by
  refine (sorted_coveredWith sorted).ext (sorted_coveredWith sorted')
    (by rw [isMapping_coveredWith, isMapping_of_get? isMetadata])
    (by rw [isMapping_coveredWith, isMapping_of_get? isMetadata']) fun key => ?_
  rw [get?_coveredWith, get?_coveredWith]
  split
  · rfl
  · next covered =>
      by_cases here : key = "metadata"
      · subst here
        simp [isMetadata, isMetadata', without, changeMembers, inside]
      · rw [outside key here (by simpa using covered)]

/-- Values that are not covered do not matter for the view. -/
theorem coveredWith_congr
    {members others : Members}
    (sorted : manifest.Sorted)
    (sorted' : other.Sorted)
    (isMetadata : manifest.get? "metadata" = some (.mapping members))
    (isMetadata' : other.get? "metadata" = some (.mapping others))
    (outside : ∀ key, key ≠ "metadata" → isUncovered listed kept [.key key] = false →
      manifest.get? key = other.get? key)
    (inside : ∀ key, isUncovered listed kept [.key "metadata", .key key] = false →
      Members.get? members key = Members.get? others key) :
    coveredWith listed kept manifest = coveredWith listed kept other := by
  refine coveredWith_eq_of_metadata sorted sorted' isMetadata isMetadata' outside
    (congrArg dropVacantAnnotations ?_)
  refine (ascending_withoutMembers (sorted.ascending_of_get? isMetadata)).ext
    (ascending_withoutMembers (sorted'.ascending_of_get? isMetadata')) fun key => ?_
  rw [get?_withoutMembers, get?_withoutMembers]
  split
  · rfl
  · next covered => rw [inside key (by simpa using covered)]

/-- The metadata of a view are a mapping if those of the manifest are. -/
theorem isMapping_metadata_coveredWith :
    ((coveredWith listed kept manifest).get? "metadata").map isMapping =
      if isUncovered listed kept [.key "metadata"] then none
      else (manifest.get? "metadata").map isMapping := by
  rw [get?_coveredWith]
  split
  · rfl
  · simp [Function.comp_def]

/-- Outside the annotations the text of a field of the metadata reads in the view as it does in
the manifest, unless it is not covered. -/
theorem text_coveredWith
    {key : String}
    (plain : key ≠ "annotations") :
    ((coveredWith listed kept manifest).at? (ofKeys ["metadata", key])).bind asText? =
      if isUncovered listed kept (ofKeys ["metadata", key]) then none
      else (manifest.at? (ofKeys ["metadata", key])).bind asText? := by
  have dropped (document : Document) :
      (document.changeMetadata dropVacantAnnotations).at? (ofKeys ["metadata", key]) =
        document.at? (ofKeys ["metadata", key]) := by
    simp only [ofKeys, List.map_cons, List.map_nil, at?_key, at?_nil, get?_changeMetadata,
      if_true]
    cases document.get? "metadata" with
    | none => rfl
    | some metadata =>
        cases metadata <;> simp [changeMembers, Document.get?, get?_dropVacantAnnotations, plain]
  rw [coveredWith, dropped, at?_without _ closed_isUncovered]
  split
  · rfl
  · exact bind_asText?_without _

/-- A text that is covered is the same in all manifests of which the same is covered. -/
theorem text_of_coveredWith_eq
    {key : String}
    (same : coveredWith listed kept manifest = coveredWith listed kept other)
    (plain : key ≠ "annotations")
    (covered : isUncovered listed kept (ofKeys ["metadata", key]) = false) :
    (manifest.at? (ofKeys ["metadata", key])).bind asText? =
      (other.at? (ofKeys ["metadata", key])).bind asText? := by
  have texts := congrArg (fun view : Document =>
    (view.at? (ofKeys ["metadata", key])).bind asText?) same
  simpa [text_coveredWith plain, covered] using texts

/-- A server-assigned field is not covered. -/
theorem isUncovered_of_server
    {path : FieldPath}
    (server : extendsAny DocumentFilter.serverAssignedPaths path = true) :
    isUncovered listed kept path = true := by
  rw [isUncovered, extendsAny_append, server]
  rfl

/-- Outside the server-assigned fields and the annotations, a field of the metadata is covered
unless a listed place contains it. -/
theorem isUncovered_metadata
    {key : String}
    (notServer : extendsAny DocumentFilter.serverAssignedPaths (ofKeys ["metadata", key]) =
      false) :
    isUncovered listed kept (ofKeys ["metadata", key]) =
      extendsAny listed (ofKeys ["metadata", key]) := by
  rw [isUncovered, extendsAny_append, notServer, Bool.false_or]
  exact Bool.or_false _

end BundleTrust
