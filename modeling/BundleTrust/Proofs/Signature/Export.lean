import BundleTrust.Proofs.Signature.CoveredView
import BundleTrust.Signature.Signing

/-!
# Exported manifests

What is exported of a signed manifest is the manifest with one more annotation and without
the fields that a cluster assigns.  Its view is that of the manifest if the metadata are a
mapping; where they are missing or null, the export has metadata that the view of the
manifest does not have.
-/

namespace BundleTrust

open Document FieldPath

/-! ## Setting an annotation -/

/-- A mapping stands under a key, or there is nothing or null and the mapping is empty. -/
def HoldsMapping (members : Members) (key : String) (inner : Members) : Prop :=
  Members.get? members key = some (.mapping inner) ∨
    inner = [] ∧ (Members.get? members key = none ∨ Members.get? members key = some .null)

theorem holdsMapping_of_mappingAt
    {members inner : Members}
    {key : String}
    {failure : SignatureError}
    (found : mappingAt members key failure = .ok inner) :
    HoldsMapping members key inner := by
  rw [mappingAt] at found
  rw [HoldsMapping]
  split at found
  · next missing => exact .inr ⟨(Except.ok.inj found).symm, .inl missing⟩
  · next isNull => exact .inr ⟨(Except.ok.inj found).symm, .inr isNull⟩
  · next isMapping =>
      cases found
      exact .inl isMapping
  · cases found

/-- Metadata with one more annotation. -/
def annotateMetadata (key value : String) (metadata annotations : Members) : Members :=
  Members.insert "annotations" (.mapping (Members.insert key (.text value) annotations)) metadata

/-- Setting an annotation succeeds only where metadata and annotations are mappings, null or
missing, and replaces both. -/
theorem exists_of_annotated
    {manifest annotated : Document}
    {key value : String}
    (set : setAnnotation manifest key value = .ok annotated) :
    ∃ root metadata annotations, manifest = .mapping root ∧
      HoldsMapping root "metadata" metadata ∧ HoldsMapping metadata "annotations" annotations ∧
      annotated = .mapping (Members.insert "metadata"
        (.mapping (annotateMetadata key value metadata annotations)) root) := by
  cases manifest with
  | mapping root =>
      rw [setAnnotation_mapping] at set
      split at set
      · cases set
      · next metadata isMetadata =>
          split at set
          · cases set
          · next annotations isAnnotations =>
              cases set
              exact ⟨root, metadata, annotations, rfl, holdsMapping_of_mappingAt isMetadata,
                holdsMapping_of_mappingAt isAnnotations, rfl⟩
  | _ => cases set

/-- A member of a mapping that is held is sorted. -/
theorem HoldsMapping.sorted
    {members inner : Members}
    {key : String}
    (holds : HoldsMapping members key inner)
    (sorted : (mapping members).Sorted) :
    (mapping inner).Sorted := by
  rw [Sorted] at sorted
  cases holds with
  | inl found => exact Sorted.of_get? sorted.2 found
  | inr empty =>
      rw [empty.1, Sorted]
      exact ⟨List.Pairwise.nil, sortedMembers_iff.2 fun _ none => absurd none List.not_mem_nil⟩

theorem Sorted.insert
    {members : Members}
    {value : Document}
    (sorted : (mapping members).Sorted)
    (valueSorted : value.Sorted)
    (key : String) :
    (mapping (Members.insert key value members)).Sorted := by
  rw [Sorted] at sorted ⊢
  refine ⟨sorted.1.insert key value, sortedMembers_iff.2 fun member isMember => ?_⟩
  cases Members.mem_of_mem_insert isMember with
  | inl isNew => exact isNew ▸ valueSorted
  | inr isOld => exact sortedMembers_iff.1 sorted.2 member isOld

/-- Setting an annotation keeps a manifest sorted. -/
theorem sorted_annotated
    {manifest annotated : Document}
    {key value : String}
    (set : setAnnotation manifest key value = .ok annotated)
    (sorted : manifest.Sorted) :
    annotated.Sorted := by
  obtain ⟨root, metadata, annotations, rfl, isMetadata, isAnnotations, rfl⟩ :=
    exists_of_annotated set
  have metadataSorted := isMetadata.sorted sorted
  have annotationsSorted := isAnnotations.sorted metadataSorted
  have isText : (text value).Sorted := by simp [Sorted]
  exact Sorted.insert sorted
    (Sorted.insert metadataSorted (Sorted.insert annotationsSorted isText key) "annotations")
    "metadata"

/-- An annotation reads as it stands in the mapping that counts as the annotations. -/
theorem annotation?_of_holdsMapping
    {root metadata annotations : Members}
    (isMetadata : HoldsMapping root "metadata" metadata)
    (isAnnotations : HoldsMapping metadata "annotations" annotations)
    (key : String) :
    annotation? (.mapping root) key = (Members.get? annotations key).bind asText? := by
  rcases isMetadata with found | ⟨rfl, missing | isNull⟩
  · rcases isAnnotations with found' | ⟨rfl, missing | isNull⟩
    · simp [annotation?, Document.get?, found, found']
    · simp [annotation?, Document.get?, found, missing]
    · simp [annotation?, Document.get?, found, isNull]
  · rcases isAnnotations with found' | ⟨rfl, -⟩
    · simp at found'
    · simp [annotation?, Document.get?, missing]
  · rcases isAnnotations with found' | ⟨rfl, -⟩
    · simp at found'
    · simp [annotation?, Document.get?, isNull]

/-- An annotation that is set reads as it was set, and all others read as before. -/
theorem annotation?_annotated
    {manifest annotated : Document}
    {key value : String}
    (set : setAnnotation manifest key value = .ok annotated)
    (other : String) :
    annotation? annotated other =
      if other = key then some value else annotation? manifest other := by
  obtain ⟨root, metadata, annotations, rfl, isMetadata, isAnnotations, rfl⟩ :=
    exists_of_annotated set
  have found : HoldsMapping (Members.insert "metadata"
      (.mapping (annotateMetadata key value metadata annotations)) root) "metadata"
      (annotateMetadata key value metadata annotations) := .inl (by simp)
  have found' : HoldsMapping (annotateMetadata key value metadata annotations) "annotations"
      (Members.insert key (.text value) annotations) := .inl (by simp [annotateMetadata])
  rw [annotation?_of_holdsMapping found found',
    annotation?_of_holdsMapping isMetadata isAnnotations, Members.get?_insert]
  split <;> rfl

/-! ## The view of an export -/

section View

variable {manifest annotated : Document} {key value : String} {listed : List FieldPath}
  {kept : List String}

/-- An export is a document without its server-assigned fields. -/
theorem apply_serverAssigned (document : Document) :
    DocumentFilter.serverAssigned.apply document =
      document.without (extendsAny DocumentFilter.serverAssignedPaths) :=
  DocumentFilter.deleteAll_descending serverAssignedPaths_ne_nil document

/-- Leaving out server-assigned fields does not change how annotations read. -/
theorem annotation?_serverAssigned (document : Document) (key : String) :
    annotation? (DocumentFilter.serverAssigned.apply document) key = annotation? document key := by
  rw [apply_serverAssigned, annotation?_eq_at?, at?_without _ (closed_extendsAny _),
    annotation_not_serverAssigned, annotation?_eq_at?]
  exact bind_asText?_without _

/-- Leaving out server-assigned fields first does not change what is covered. -/
theorem coveredWith_serverAssigned (document : Document) :
    coveredWith listed kept (DocumentFilter.serverAssigned.apply document) =
      coveredWith listed kept document := by
  have merged := (without_without document (isUncovered listed kept) _ byKeys_serverAssignedPaths
    rfl).2
  have covers : (fun path => isUncovered listed kept path ||
      extendsAny DocumentFilter.serverAssignedPaths path) = isUncovered listed kept := by
    funext path
    rw [isUncovered, extendsAny_append]
    cases extendsAny DocumentFilter.serverAssignedPaths path <;> simp
  rw [coveredWith, coveredWith, apply_serverAssigned, merged, covers]

/-- Inserting a member that is taken out again changes nothing. -/
theorem withoutMembers_insert
    {isExcluded : FieldPath → Bool}
    (excluded : isExcluded [.key key] = true)
    (inserted : Document)
    (members : Members) :
    withoutMembers isExcluded (Members.insert key inserted members) =
      withoutMembers isExcluded members := by
  induction members with
  | nil => simp [Members.insert, withoutMembers, excluded]
  | cons member members ih =>
      obtain ⟨name, old⟩ := member
      rw [Members.insert]
      split
      · next same =>
          subst same
          simp [withoutMembers, excluded]
      · split
        · simp [withoutMembers, excluded]
        · rw [withoutMembers, withoutMembers, ih]

/-- Metadata are covered alike with and without a further foreign annotation. -/
theorem dropVacant_annotateMetadata
    {metadata annotations : Members}
    (isAnnotations : HoldsMapping metadata "annotations" annotations)
    (ascending : Members.Ascending metadata)
    (foreign : key ∉ kept) :
    dropVacantAnnotations (withoutMembers
        (fun path => isUncovered listed kept (.key "metadata" :: path))
        (annotateMetadata key value metadata annotations)) =
      dropVacantAnnotations (withoutMembers
        (fun path => isUncovered listed kept (.key "metadata" :: path)) metadata) := by
  refine (ascending_dropVacantAnnotations (ascending_withoutMembers
    (ascending.insert "annotations" _))).ext
    (ascending_dropVacantAnnotations (ascending_withoutMembers ascending)) fun name => ?_
  have takenOut : isUncovered listed kept
      [.key "metadata", .key "annotations", .key key] = true := by
    simp [isUncovered, isForeign, foreign]
  have pruned := @withoutMembers_insert key
    (fun path => isUncovered listed kept (.key "metadata" :: .key "annotations" :: path)) takenOut
    (.text value) annotations
  rw [get?_dropVacantAnnotations, get?_dropVacantAnnotations, get?_withoutMembers,
    get?_withoutMembers, Members.get?_insert]
  by_cases here : name = "annotations"
  · subst here
    by_cases excluded : isUncovered listed kept [.key "metadata", .key "annotations"]
    · simp [excluded]
    · simp only [excluded, if_true, if_false, Option.map_some, without, pruned, Bool.false_eq_true]
      rcases isAnnotations with found | ⟨rfl, missing | isNull⟩
      · simp only [found, Option.map_some, without]
      · simp [missing, withoutMembers, isVacant, Option.filter]
      · simp [isNull, withoutMembers, without, isVacant, Option.filter]
  · simp only [here, if_false]

/-- Where the metadata are a mapping, a further foreign annotation does not change what is
covered. -/
theorem coveredWith_annotated
    (set : setAnnotation manifest key value = .ok annotated)
    (sorted : manifest.Sorted)
    (foreign : key ∉ kept)
    {metadata : Members}
    (isMetadata : manifest.get? "metadata" = some (.mapping metadata)) :
    coveredWith listed kept annotated = coveredWith listed kept manifest := by
  have annotatedSorted := sorted_annotated set sorted
  obtain ⟨root, metadata', annotations, rfl, holds, isAnnotations, rfl⟩ :=
    exists_of_annotated set
  obtain rfl : metadata' = metadata := by
    rw [Document.get?] at isMetadata
    simpa [HoldsMapping, isMetadata, eq_comm] using holds
  have metadataSorted := holds.sorted sorted
  rw [Sorted] at metadataSorted
  refine Sorted.ext (sorted_coveredWith annotatedSorted) (sorted_coveredWith sorted)
    (isMapping_coveredWith.trans rfl) (isMapping_coveredWith.trans rfl) fun name => ?_
  rw [get?_coveredWith, get?_coveredWith]
  by_cases here : name = "metadata"
  · subst here
    have same := @dropVacant_annotateMetadata key value listed kept _ _ isAnnotations
      metadataSorted.1 foreign
    rw [isMetadata]
    simp [Document.get?, without, changeMembers, same]
  · simp [Document.get?, here]

/-- Where the metadata are missing or null, the view of the annotated manifest has empty metadata
in their place. -/
theorem get?_coveredWith_of_noMetadata
    (set : setAnnotation manifest key value = .ok annotated)
    (foreign : key ∉ kept)
    (noMetadata : manifest.get? "metadata" = none ∨ manifest.get? "metadata" = some .null)
    (name : String) :
    (coveredWith [] kept annotated).get? name =
      if name = "metadata" then some (.mapping [])
      else (coveredWith [] kept manifest).get? name := by
  obtain ⟨root, metadata, annotations, rfl, isMetadata, isAnnotations, rfl⟩ :=
    exists_of_annotated set
  obtain rfl : metadata = [] := by
    simp only [Document.get?] at noMetadata
    rcases isMetadata with found | ⟨empty, -⟩
    · simp [found] at noMetadata
    · exact empty
  obtain rfl : annotations = [] := by
    simpa [HoldsMapping] using isAnnotations
  rw [get?_coveredWith, get?_coveredWith]
  by_cases here : name = "metadata"
  · subst here
    have covered : isUncovered [] kept [.key "metadata"] = false := rfl
    have covered' : isUncovered [] kept [.key "metadata", .key "annotations"] = false := rfl
    have takenOut : isUncovered [] kept
        [.key "metadata", .key "annotations", .key key] = true := by
      simp [isUncovered, isForeign, foreign]
    simp [covered, covered', takenOut, Document.get?, annotateMetadata, Members.insert, without,
      withoutMembers, changeMembers, dropVacantAnnotations, isVacant]
  · simp [Document.get?, here]

end View

end BundleTrust
