import BundleTrust.Proofs.Document.Deletion
import BundleTrust.Signature.Digest

/-!
# The covered view of a manifest

What a signature covers, said without an order of steps: the manifest without every place
whose path extends an excluded one or lies in an annotation that is not kept, and without
annotations that are then empty or null.  The digest is made of this view.
-/

namespace BundleTrust

namespace Document

/-! ## Changing the metadata -/

@[simp] theorem isMapping_changeMetadata (change : Members → Members) (document : Document) :
    (document.changeMetadata change).isMapping = document.isMapping := by
  cases document <;> rfl

theorem get?_changeMetadata (change : Members → Members) (document : Document) (key : String) :
    (document.changeMetadata change).get? key =
      if key = "metadata" then (document.get? key).map (changeMembers change)
      else document.get? key := by
  cases document <;> simp [changeMetadata, changeMembers, get?]

/-- A change that keeps metadata sorted keeps the document sorted. -/
theorem Sorted.changeMetadata
    {change : Members → Members}
    (keeps : ∀ metadata, (mapping metadata).Sorted → (mapping (change metadata)).Sorted)
    {document : Document}
    (sorted : document.Sorted) :
    (document.changeMetadata change).Sorted := by
  cases document with
  | mapping members =>
      rw [Sorted] at sorted
      rw [Document.changeMetadata, changeMembers, Sorted]
      refine ⟨sorted.1.modify _ _, sortedMembers_iff.2 fun member isMember => ?_⟩
      obtain ⟨old, isOld, rfl⟩ := List.mem_map.1 isMember
      have oldSorted := sortedMembers_iff.1 sorted.2 old isOld
      split
      · cases value : old.2 with
        | mapping metadata =>
            rw [value] at oldSorted
            simpa [changeMembers, value] using keeps metadata oldSorted
        | _ => simpa [changeMembers, value] using oldSorted
      · exact oldSorted
  | _ => exact sorted

end Document

open Document FieldPath

/-! ## The view -/

/-- Whether a path lies in an annotation whose key is not kept. -/
def isForeign (kept : List String) : FieldPath → Bool
  | .key parent :: .key child :: .key name :: _ =>
      parent == "metadata" && child == "annotations" && !kept.contains name
  | _ => false

/-- Whether a value is an empty mapping or null. -/
def isVacant : Document → Bool
  | .null => true
  | .mapping members => members.isEmpty
  | _ => false

/-- Drop annotations that are empty or null. -/
def dropVacantAnnotations (metadata : Members) : Members :=
  if (Members.get? metadata "annotations").any isVacant then Members.erase "annotations" metadata
  else metadata

/-- Whether a path extends that of a server-assigned field or of a listed place, or lies in an
annotation whose key is not kept. -/
def isUncovered (listed : List FieldPath) (kept : List String) (path : FieldPath) : Bool :=
  extendsAny (DocumentFilter.serverAssignedPaths ++ listed) path || isForeign kept path

/-- What is covered of a manifest when some places are listed and some annotations kept. -/
def coveredWith (listed : List FieldPath) (kept : List String) (manifest : Document) : Document :=
  (manifest.without (isUncovered listed kept)).changeMetadata dropVacantAnnotations

/-- What a signature under a domain covers of a manifest. -/
def coveredView (manifest : Document) (domain : String) : Except SignatureError Document :=
  (readExcludes manifest domain).map fun listed =>
    coveredWith listed (declarationKeys domain) manifest

/-! ## Shape and order of the view -/

variable {listed : List FieldPath} {kept : List String} {manifest : Document} {domain : String}

theorem get?_dropVacantAnnotations (metadata : Members) (key : String) :
    Members.get? (dropVacantAnnotations metadata) key =
      if key = "annotations" then (Members.get? metadata key).filter fun value => !isVacant value
      else Members.get? metadata key := by
  rw [dropVacantAnnotations]
  by_cases here : key = "annotations"
  · subst here
    cases found : Members.get? metadata "annotations" with
    | none => simp [found]
    | some value => by_cases vacant : isVacant value <;> simp [found, vacant, Option.filter]
  · split <;> simp [here]

theorem sorted_dropVacantAnnotations
    (metadata : Members)
    (sorted : (mapping metadata).Sorted) :
    (mapping (dropVacantAnnotations metadata)).Sorted := by
  rw [dropVacantAnnotations]
  split
  · rw [Sorted] at sorted ⊢
    refine ⟨sorted.1.erase _, sortedMembers_iff.2 fun member isMember => ?_⟩
    exact sortedMembers_iff.1 sorted.2 member (List.mem_filter.1 isMember).1
  · exact sorted

theorem sorted_coveredWith
    (sorted : manifest.Sorted) :
    (coveredWith listed kept manifest).Sorted :=
  (Sorted.without manifest _ sorted).changeMetadata sorted_dropVacantAnnotations

@[simp] theorem isMapping_coveredWith :
    (coveredWith listed kept manifest).isMapping = manifest.isMapping := by
  simp [coveredWith]

/-- What a key of a view holds. -/
theorem get?_coveredWith (key : String) :
    (coveredWith listed kept manifest).get? key =
      if isUncovered listed kept [.key key] then none
      else (manifest.get? key).map fun value =>
        let pruned := value.without fun path => isUncovered listed kept (.key key :: path)
        if key = "metadata" then pruned.changeMembers dropVacantAnnotations else pruned := by
  rw [coveredWith, get?_changeMetadata, get?_without]
  by_cases here : key = "metadata"
  · subst here
    by_cases excluded : isUncovered listed kept [.key "metadata"] <;>
      simp [excluded, Function.comp_def]
  · simp [here]

/-! ## Narrowing annotations is pruning -/

theorem byKeys_isForeign : ByKeys (isForeign kept) := by
  intro before index after foreign
  match before with
  | [] => exact absurd foreign Bool.false_ne_true
  | [.key _] => exact absurd foreign Bool.false_ne_true
  | [.key _, .key _] => exact absurd foreign Bool.false_ne_true
  | .key _ :: .key _ :: .key _ :: _ => exact foreign
  | .position _ :: _ => exact absurd foreign Bool.false_ne_true
  | .key _ :: .position _ :: _ => exact absurd foreign Bool.false_ne_true
  | .key _ :: .key _ :: .position _ :: _ => exact absurd foreign Bool.false_ne_true

/-- Outside the metadata nothing is foreign. -/
theorem isForeign_eq_false_of_key
    {key : String}
    (outside : key ≠ "metadata") :
    (fun path => isForeign kept (.key key :: path)) = fun _ => false := by
  funext path
  unfold isForeign
  split <;> simp_all

/-- In the metadata nothing is foreign outside the annotations. -/
theorem isForeign_eq_false_of_child
    {key : String}
    (outside : key ≠ "annotations") :
    (fun path => isForeign kept (.key "metadata" :: .key key :: path)) =
      fun _ => false := by
  funext path
  unfold isForeign
  split <;> simp_all

/-- Annotations without the foreign ones are those whose keys are kept. -/
theorem withoutMembers_foreign (annotations : Members) :
    withoutMembers
        (fun path => isForeign kept (.key "metadata" :: .key "annotations" :: path))
        annotations =
      annotations.filter fun member => kept.contains member.1 := by
  induction annotations with
  | nil => simp [withoutMembers]
  | cons member annotations ih =>
      rw [withoutMembers, ih, List.filter_cons]
      by_cases isKept : member.1 ∈ kept <;> simp [isForeign, isKept]

/-- Annotations that are no mapping have no foreign ones. -/
theorem without_foreign (annotations : Document) :
    annotations.without
        (fun path => isForeign kept (.key "metadata" :: .key "annotations" :: path)) =
      annotations.changeMembers fun members =>
        members.filter fun member => kept.contains member.1 := by
  cases annotations with
  | list items =>
      have byKeys : ByKeys fun path =>
          isForeign kept (.key "metadata" :: .key "annotations" :: path) :=
        (byKeys_isForeign.below (.key "metadata")).below (.key "annotations")
      rw [without, byKeys.withoutItems_eq rfl]
      rfl
  | mapping members => rw [without, withoutMembers_foreign, changeMembers]
  | _ => rfl

theorem get?_narrowAnnotations (metadata : Members) (key : String) :
    Members.get? (DocumentFilter.narrowAnnotations kept metadata) key =
      if key = "annotations" then
        ((Members.get? metadata key).map (changeMembers fun members =>
          members.filter fun member => kept.contains member.1)).filter fun value => !isVacant value
      else Members.get? metadata key := by
  cases found : Members.get? metadata "annotations" with
  | none =>
      simp only [DocumentFilter.narrowAnnotations, found]
      split
      · next here => simp [here, found]
      · rfl
  | some value =>
      cases value with
      | null =>
          simp only [DocumentFilter.narrowAnnotations, found, Members.get?_erase]
          split
          · next here => simp [here, found, changeMembers, isVacant, Option.filter]
          · rfl
      | mapping annotations =>
          simp only [DocumentFilter.narrowAnnotations, found]
          by_cases here : key = "annotations" <;>
            cases vacant : (annotations.filter fun member => kept.contains member.1).isEmpty <;>
            simp [here, found, changeMembers, isVacant, Option.filter, vacant,
              -List.contains_eq_mem]
      | _ =>
          simp only [DocumentFilter.narrowAnnotations, found]
          split
          · next here => simp [here, found, changeMembers, isVacant, Option.filter]
          · rfl

theorem ascending_narrowAnnotations
    {metadata : Members}
    (ascending : Members.Ascending metadata) :
    Members.Ascending (DocumentFilter.narrowAnnotations kept metadata) := by
  rw [DocumentFilter.narrowAnnotations]
  split
  · dsimp only
    split
    · exact ascending.erase _
    · exact ascending.modify _ _
  · exact ascending.erase _
  · exact ascending

theorem ascending_dropVacantAnnotations
    {metadata : Members}
    (ascending : Members.Ascending metadata) :
    Members.Ascending (dropVacantAnnotations metadata) := by
  rw [dropVacantAnnotations]
  split
  · exact ascending.erase _
  · exact ascending

/-- Metadata with narrowed annotations are the metadata without the foreign ones and without
annotations that are then vacant. -/
theorem narrowAnnotations_eq
    {metadata : Members}
    (ascending : Members.Ascending metadata) :
    DocumentFilter.narrowAnnotations kept metadata =
      dropVacantAnnotations
        (withoutMembers (fun path => isForeign kept (.key "metadata" :: path))
          metadata) := by
  refine (ascending_narrowAnnotations ascending).ext
    (ascending_dropVacantAnnotations (ascending_withoutMembers ascending)) fun key => ?_
  have kept : isForeign kept [.key "metadata", .key key] = false := rfl
  rw [get?_narrowAnnotations, get?_dropVacantAnnotations, get?_withoutMembers, kept]
  by_cases here : key = "annotations"
  · subst here
    simp only [without_foreign, if_true, Bool.false_eq_true, if_false]
  · rw [isForeign_eq_false_of_child here]
    simp [here]

/-- A document with narrowed annotations is the document without the foreign ones and without
annotations that are then vacant. -/
theorem narrowDocument_eq
    (sorted : manifest.Sorted) :
    DocumentFilter.narrowDocument kept manifest =
      (manifest.without (isForeign kept)).changeMetadata dropVacantAnnotations := by
  cases manifest with
  | mapping members =>
      rw [Sorted] at sorted
      rw [DocumentFilter.narrowDocument, changeMetadata, without, changeMetadata]
      refine congrArg mapping ((sorted.1.modify _ _).ext
        ((ascending_withoutMembers sorted.1).modify _ _) fun key => ?_)
      have notForeign : isForeign kept [.key key] = false := rfl
      rw [Members.get?_modify, Members.get?_modify, get?_withoutMembers, notForeign]
      by_cases here : key = "metadata"
      · subst here
        cases found : Members.get? members "metadata" with
        | none => simp
        | some value =>
            have valueSorted := Sorted.of_get? sorted.2 found
            cases value with
            | mapping metadata =>
                rw [Sorted] at valueSorted
                simp [changeMembers, without, narrowAnnotations_eq valueSorted.1]
            | list items =>
                simp [changeMembers, without,
                  (byKeys_isForeign.below (.key "metadata")).withoutItems_eq rfl]
            | _ => simp [changeMembers, without]
      · rw [isForeign_eq_false_of_key here]
        simp [here]
  | list items =>
      rw [without, byKeys_isForeign.withoutItems_eq rfl]
      rfl
  | _ => rfl

theorem serverAssignedPaths_ne_nil :
    ∀ path ∈ DocumentFilter.serverAssignedPaths, path ≠ [] := by
  decide

/-- The outcome of a filter is the covered view. -/
theorem apply_eq_coveredWith
    (sorted : manifest.Sorted)
    (nonempty : ∀ path ∈ listed, path ≠ []) :
    ((DocumentFilter.serverAssigned.excluding listed).keepingAnnotations kept).apply manifest =
      coveredWith listed kept manifest := by
  have nonempty' : ∀ path ∈ DocumentFilter.serverAssignedPaths ++ listed, path ≠ [] := by
    intro path isListed
    cases List.mem_append.1 isListed with
    | inl server => exact serverAssignedPaths_ne_nil path server
    | inr own => exact nonempty path own
  have deleted := DocumentFilter.deleteAll_descending nonempty' manifest
  have merged := (without_without manifest
    (extendsAny (DocumentFilter.serverAssignedPaths ++ listed)) (isForeign kept)
    byKeys_isForeign rfl).1
  calc
    _ = DocumentFilter.narrowDocument kept
          (manifest.without (extendsAny (DocumentFilter.serverAssignedPaths ++ listed))) := by
      simp [DocumentFilter.apply, DocumentFilter.excluding, DocumentFilter.keepingAnnotations,
        DocumentFilter.serverAssigned, deleted]
    _ = coveredWith listed kept manifest := by
      rw [narrowDocument_eq (Sorted.without manifest _ sorted), merged, coveredWith]
      rfl

/-! ## Annotations of the view -/

theorem closed_isForeign : Closed (isForeign kept) := by
  intro path step foreign
  match path with
  | .key _ :: .key _ :: .key _ :: _ => exact foreign

theorem closed_isUncovered : Closed (isUncovered listed kept) := by
  intro path step excluded
  cases Bool.or_eq_true_iff.1 excluded with
  | inl inside => simp [isUncovered, closed_extendsAny _ path step inside]
  | inr foreign => simp [isUncovered, closed_isForeign path step foreign]

/-- An annotation is the text at its path. -/
theorem annotation?_eq_at? (manifest : Document) (key : String) :
    annotation? manifest key =
      (manifest.at? (ofKeys ["metadata", "annotations", key])).bind asText? := by
  simp [annotation?, ofKeys]

/-- Dropping vacant annotations does not change how an annotation reads. -/
theorem annotation?_dropVacant (manifest : Document) (key : String) :
    annotation? (manifest.changeMetadata dropVacantAnnotations) key = annotation? manifest key := by
  rw [annotation?, annotation?, get?_changeMetadata, if_pos rfl]
  cases manifest.get? "metadata" with
  | none => rfl
  | some metadata =>
      cases metadata with
      | mapping members =>
          have dropped := get?_dropVacantAnnotations members "annotations"
          cases found : Members.get? members "annotations" with
          | none => simp [changeMembers, Document.get?, dropped, found]
          | some value =>
              cases value with
              | mapping annotations =>
                  cases annotations <;>
                    simp [changeMembers, Document.get?, dropped, found, isVacant, Option.filter]
              | _ => simp [changeMembers, Document.get?, dropped, found, isVacant, Option.filter]
      | _ => rfl

/-- No annotation lies in a server-assigned field. -/
theorem annotation_not_serverAssigned (key : String) :
    extendsAny DocumentFilter.serverAssignedPaths (ofKeys ["metadata", "annotations", key]) =
      false := by
  simp [extendsAny, DocumentFilter.serverAssignedPaths, ofKeys, List.isPrefixOf]

/-- The path of the excludes annotation of a domain. -/
def excludesPath (domain : String) : FieldPath :=
  ofKeys ["metadata", "annotations", excludesAnnotationKey domain]

/-- A kept annotation reads in the view as it does in the manifest, unless a listed place
contains it. -/
theorem annotation?_coveredWith
    {key : String}
    (isKept : key ∈ kept) :
    annotation? (coveredWith listed kept manifest) key =
      if extendsAny listed (ofKeys ["metadata", "annotations", key]) then none
      else annotation? manifest key := by
  have notForeign : isForeign kept (ofKeys ["metadata", "annotations", key]) = false := by
    simp [isForeign, ofKeys, isKept]
  have place : isUncovered listed kept (ofKeys ["metadata", "annotations", key]) =
      extendsAny listed (ofKeys ["metadata", "annotations", key]) := by
    rw [isUncovered, extendsAny_append, annotation_not_serverAssigned, notForeign,
      Bool.false_or, Bool.or_false]
  rw [coveredWith, annotation?_dropVacant, annotation?_eq_at?, at?_without _ closed_isUncovered,
    place, annotation?_eq_at?]
  split
  · rfl
  · exact bind_asText?_without _

/-! ## The view of a view -/

/-- Dropping a key is taking it out at its path. -/
theorem erase_eq_withoutMembers (members : Members) (key : String) :
    Members.erase key members =
      withoutMembers (fun path => [.key key].isPrefixOf path) members := by
  have taken := @erase_withoutMembers (fun _ => false) members key
  simpa [withoutMembers_false] using taken

/-- Dropping vacant annotations is taking them out at their path. -/
theorem dropVacant_eq_without
    (sorted : manifest.Sorted) :
    manifest.changeMetadata dropVacantAnnotations =
      manifest.without fun path =>
        (manifest.at? (ofKeys ["metadata", "annotations"])).any isVacant &&
          (ofKeys ["metadata", "annotations"]).isPrefixOf path := by
  cases manifest with
  | mapping members =>
      rw [Sorted] at sorted
      rw [changeMetadata, changeMembers, without]
      refine congrArg mapping ((sorted.1.modify _ _).ext (ascending_withoutMembers sorted.1)
        fun key => ?_)
      rw [Members.get?_modify, get?_withoutMembers]
      by_cases here : key = "metadata"
      · subst here
        cases found : Members.get? members "metadata" with
        | none => simp
        | some value =>
            cases value with
            | mapping metadata =>
                cases vacant : (Members.get? metadata "annotations").any isVacant <;>
                  simp [changeMembers, dropVacantAnnotations, ofKeys, Document.get?, found, vacant,
                    List.isPrefixOf, without, erase_eq_withoutMembers]
            | _ => simp [changeMembers, ofKeys, Document.get?, found, List.isPrefixOf]
      · have apart : (PathStep.key "metadata" == .key key) = false := by
          simpa using fun same => here same.symm
        simp [here, ofKeys, List.isPrefixOf, apart]
  | _ => simp [changeMetadata, changeMembers, ofKeys, Document.get?]

/-- Vacant annotations are dropped once and for all. -/
theorem dropVacant_dropVacant
    (sorted : manifest.Sorted) :
    (manifest.changeMetadata dropVacantAnnotations).changeMetadata dropVacantAnnotations =
      manifest.changeMetadata dropVacantAnnotations := by
  have filled : ((manifest.changeMetadata dropVacantAnnotations).at?
      (ofKeys ["metadata", "annotations"])).any isVacant = false := by
    simp only [ofKeys, List.map_cons, List.map_nil, at?_key, at?_nil, get?_changeMetadata, if_true]
    cases manifest.get? "metadata" with
    | none => rfl
    | some value =>
        cases value with
        | mapping metadata =>
            have dropped := get?_dropVacantAnnotations metadata "annotations"
            simp only [Option.map_some, changeMembers, Option.bind_some, Document.get?, dropped,
              if_true]
            cases Members.get? metadata "annotations" with
            | none => rfl
            | some annotations => cases vacant : isVacant annotations <;>
                simp [Option.filter, vacant]
        | _ => rfl
  rw [dropVacant_eq_without (sorted.changeMetadata sorted_dropVacantAnnotations), filled]
  simp

theorem byKeys_serverAssignedPaths :
    ByKeys (extendsAny DocumentFilter.serverAssignedPaths) := by
  refine byKeys_extendsAny fun path isServer index => ?_
  simp only [DocumentFilter.serverAssignedPaths, List.mem_cons, List.not_mem_nil, or_false]
    at isServer
  rcases isServer with rfl | rfl | rfl | rfl | rfl | rfl <;> simp [ofKeys]

theorem byKeys_isUncovered_nil : ByKeys (isUncovered [] kept) := by
  intro before index after excluded
  rw [isUncovered, List.append_nil] at excluded ⊢
  cases Bool.or_eq_true_iff.1 excluded with
  | inl server => simp [byKeys_serverAssignedPaths before index after server]
  | inr foreign => simp [byKeys_isForeign before index after foreign]

/-- Where nothing is listed, a view is its own view. -/
theorem coveredWith_coveredWith
    (sorted : manifest.Sorted) :
    coveredWith [] kept (coveredWith listed kept manifest) = coveredWith listed kept manifest := by
  have pruned : (manifest.without (isUncovered listed kept)).Sorted :=
    Sorted.without manifest _ sorted
  have outAlready : (manifest.without (isUncovered listed kept)).without (isUncovered [] kept) =
      manifest.without (isUncovered listed kept) := by
    rw [(without_without manifest _ _ byKeys_isUncovered_nil rfl).1]
    congr 1
    funext path
    simp only [isUncovered, extendsAny_append]
    cases extendsAny DocumentFilter.serverAssignedPaths path <;>
      cases isForeign kept path <;> simp [extendsAny]
  have viewOut : (coveredWith listed kept manifest).without (isUncovered [] kept) =
      coveredWith listed kept manifest := by
    rw [coveredWith, dropVacant_eq_without pruned]
    have both := without_without (manifest.without (isUncovered listed kept)) (fun path =>
        ((manifest.without (isUncovered listed kept)).at?
          (ofKeys ["metadata", "annotations"])).any isVacant &&
          (ofKeys ["metadata", "annotations"]).isPrefixOf path)
      (isUncovered [] kept) byKeys_isUncovered_nil rfl
    rw [both.1, ← both.2, outAlready]
  calc
    coveredWith [] kept (coveredWith listed kept manifest) =
        ((coveredWith listed kept manifest).without (isUncovered [] kept)).changeMetadata
          dropVacantAnnotations := rfl
    _ = (coveredWith listed kept manifest).changeMetadata dropVacantAnnotations := by rw [viewOut]
    _ = coveredWith listed kept manifest := dropVacant_dropVacant pruned

/-! ## Digests are made of the view -/

variable {write : Document → String} {digest : ManifestDigest}

/-- A digest is the written view of a mapping. -/
theorem digestManifestWith_eq_ok_iff
    (sorted : manifest.Sorted) :
    digestManifestWith write manifest domain = .ok digest ↔
      manifest.isMapping = true ∧
        ∃ view, coveredView manifest domain = .ok view ∧ write view = digest.yaml := by
  rw [digestManifestWith, signingFilter, coveredView]
  cases listed : readExcludes manifest domain with
  | error failure => simp [Except.map]
  | ok paths =>
      have viewSorted : (coveredWith paths (declarationKeys domain) manifest).Sorted :=
        sorted_coveredWith sorted
      have filtered := @apply_eq_coveredWith paths (declarationKeys domain) manifest sorted
        (readExcludes_ne_nil listed)
      simp only [Except.map, filtered, isMapping_coveredWith, sortKeys_of_sorted _ viewSorted]
      cases manifest.isMapping with
      | false => simp
      | true =>
          obtain ⟨yaml⟩ := digest
          simp

end BundleTrust
