import BundleTrust.Proofs.Signature.Export

/-!
# Annotations of an export

Signing sets one annotation of a manifest and leaves out the fields that a cluster assigns.
Where the metadata are a mapping, that is to replace the annotations of the export of the
manifest, and to do so again and again is to do so once with all that was set
(`apply_setAnnotation_annotatedExport`).
-/

namespace BundleTrust

open Document FieldPath

/-! ## Members written over others -/

namespace Members

section Overlay

variable {Value : Type} {additions base : List (String × Value)}

/-- Members with others written over them. -/
def overlay (additions base : List (String × Value)) : List (String × Value) :=
  additions.foldr (fun member members => insert member.1 member.2 members) base

@[simp] theorem get?_overlay (key : String) :
    get? (overlay additions base) key = (get? additions key).or (get? base key) := by
  induction additions with
  | nil => rfl
  | cons member additions ih =>
      rw [overlay, List.foldr_cons, ← overlay, get?_insert, get?_cons, ih]
      by_cases here : key = member.1 <;> simp [here]

theorem Ascending.overlay (ascending : Ascending base) :
    Ascending (Members.overlay additions base) := by
  induction additions with
  | nil => exact ascending
  | cons member additions ih => exact ih.insert member.1 member.2

/-- A member that is written over the others last is one of those that are written. -/
theorem insert_overlay
    (ascending : Ascending base)
    (key : String)
    (value : Value) :
    insert key value (overlay additions base) = overlay (insert key value additions) base := by
  refine (ascending.overlay.insert key value).ext ascending.overlay fun other => ?_
  by_cases here : other = key <;> simp [here]

/-- To give a key the value that it has changes nothing. -/
theorem insert_of_get?
    {key : String}
    {value : Value}
    (ascending : Ascending base)
    (found : get? base key = some value) :
    insert key value base = base := by
  refine (ascending.insert key value).ext ascending fun other => ?_
  by_cases here : other = key
  · simp [here, found]
  · simp [here]

end Overlay

end Members

/-! ## The annotations of a document -/

/-- The annotations of a document; none where they are not a mapping. -/
def annotationsOf (document : Document) : Members :=
  (((document.get? "metadata").bind fun metadata => metadata.get? "annotations").bind
    asMapping?).getD []

/-- A document with other annotations, where its metadata are a mapping. -/
def putAnnotations (annotations : Members) (document : Document) : Document :=
  document.changeMetadata (Members.insert "annotations" (.mapping annotations))

section Document

variable {manifest annotated : Document} {metadata annotations additions : Members}
  {key value : String}

theorem get?_putAnnotations (name : String) :
    (putAnnotations annotations manifest).get? name =
      if name = "metadata" then
        (manifest.get? name).map
          (changeMembers (Members.insert "annotations" (.mapping annotations)))
      else manifest.get? name :=
  get?_changeMetadata _ manifest name

theorem get?_metadata_putAnnotations
    (isMetadata : manifest.get? "metadata" = some (.mapping metadata)) :
    (putAnnotations annotations manifest).get? "metadata" =
      some (.mapping (Members.insert "annotations" (.mapping annotations) metadata)) := by
  rw [get?_putAnnotations, if_pos rfl, isMetadata]
  rfl

theorem annotationsOf_putAnnotations
    (isMetadata : manifest.get? "metadata" = some (.mapping metadata)) :
    annotationsOf (putAnnotations annotations manifest) = annotations := by
  rw [annotationsOf, get?_metadata_putAnnotations isMetadata]
  simp [Document.get?, asMapping?]

theorem putAnnotations_putAnnotations (others : Members) :
    putAnnotations annotations (putAnnotations others manifest) =
      putAnnotations annotations manifest := by
  cases manifest with
  | mapping root =>
      simp only [putAnnotations, changeMetadata, changeMembers, Members.modify, List.map_map]
      refine congrArg mapping (List.map_congr_left fun member _ => ?_)
      by_cases here : member.1 = "metadata"
      · cases held : member.2 <;> simp [here, held, Members.insert_insert]
      · simp [here]
  | _ => rfl

/-- The annotations of a sorted document are sorted. -/
theorem sorted_annotationsOf (sorted : manifest.Sorted) :
    (mapping (annotationsOf manifest)).Sorted := by
  have none : (mapping []).Sorted := by simp [Sorted, SortedMembers, Members.Ascending]
  have held : ∀ {document value : Document} {name : String}, document.Sorted →
      document.get? name = some value → value.Sorted := by
    intro document value name isSorted found
    cases document with
    | mapping members =>
        rw [Sorted] at isSorted
        exact Sorted.of_get? isSorted.2 found
    | _ => cases found
  rw [annotationsOf]
  cases isMetadata : manifest.get? "metadata" with
  | none => exact none
  | some metadata =>
      cases isAnnotations : metadata.get? "annotations" with
      | none => simpa [isAnnotations] using none
      | some annotations =>
          have isSorted := held (held sorted isMetadata) isAnnotations
          cases annotations with
          | mapping members => simpa [isAnnotations, asMapping?] using isSorted
          | _ => simpa [isAnnotations, asMapping?] using none

/-- Setting an annotation, where the metadata are a mapping, is to replace the annotations. -/
theorem annotated_eq_putAnnotations
    (set : setAnnotation manifest key value = .ok annotated)
    (sorted : manifest.Sorted)
    (isMetadata : manifest.get? "metadata" = some (.mapping metadata)) :
    annotated = putAnnotations (Members.insert key (.text value) (annotationsOf manifest))
      manifest := by
  obtain ⟨root, metadata', annotations, rfl, holds, isAnnotations, rfl⟩ :=
    exists_of_annotated set
  change Members.get? root "metadata" = _ at isMetadata
  obtain rfl : metadata' = metadata := by simpa [HoldsMapping, isMetadata, eq_comm] using holds
  have isHeld : annotationsOf (.mapping root) = annotations := by
    rcases isAnnotations with found | ⟨rfl, missing | isNull⟩ <;>
      simp_all [annotationsOf, Document.get?, asMapping?]
  rw [Sorted] at sorted
  rw [isHeld, putAnnotations, changeMetadata, changeMembers]
  refine congrArg mapping ((sorted.1.insert _ _).ext (sorted.1.modify _ _) fun name => ?_)
  rw [Members.get?_insert, Members.get?_modify]
  by_cases here : name = "metadata"
  · simp [here, isMetadata, changeMembers, annotateMetadata]
  · simp [here]

/-- Where metadata and annotations are mappings, every annotation can be set. -/
theorem exists_annotated
    (isMetadata : manifest.get? "metadata" = some (.mapping metadata))
    (isAnnotations : Members.get? metadata "annotations" = some (.mapping annotations))
    (key value : String) :
    ∃ annotated, setAnnotation manifest key value = .ok annotated := by
  cases manifest with
  | mapping root =>
      change Members.get? root "metadata" = _ at isMetadata
      simp [setAnnotation_mapping, mappingAt, isMetadata, isAnnotations]
  | _ => cases isMetadata

/-! ## The export of a document with other annotations -/

theorem extendsAny_serverAssignedPaths_metadata :
    extendsAny DocumentFilter.serverAssignedPaths [.key "metadata"] = false := by
  decide

theorem get?_metadata_export
    (isMetadata : manifest.get? "metadata" = some (.mapping metadata)) :
    (DocumentFilter.serverAssigned.apply manifest).get? "metadata" =
      some (.mapping (withoutMembers
        (fun path => extendsAny DocumentFilter.serverAssignedPaths (.key "metadata" :: path))
        metadata)) := by
  rw [apply_serverAssigned, get?_without, extendsAny_serverAssignedPaths_metadata, isMetadata]
  simp [without]

/-- No server-assigned field is in the annotations. -/
theorem extendsAny_serverAssignedPaths_annotations (path : FieldPath) :
    extendsAny DocumentFilter.serverAssignedPaths
      (.key "metadata" :: .key "annotations" :: path) = false := by
  simp [extendsAny, DocumentFilter.serverAssignedPaths, ofKeys, List.isPrefixOf]

theorem withoutMembers_insert_annotations
    (ascending : Members.Ascending metadata) :
    withoutMembers
        (fun path => extendsAny DocumentFilter.serverAssignedPaths (.key "metadata" :: path))
        (Members.insert "annotations" (.mapping annotations) metadata) =
      Members.insert "annotations" (.mapping annotations)
        (withoutMembers
          (fun path => extendsAny DocumentFilter.serverAssignedPaths (.key "metadata" :: path))
          metadata) := by
  refine (ascending_withoutMembers (ascending.insert _ _)).ext
    ((ascending_withoutMembers ascending).insert _ _) fun name => ?_
  rw [get?_withoutMembers, Members.get?_insert, Members.get?_insert, get?_withoutMembers]
  by_cases here : name = "annotations"
  · simp [here, extendsAny_serverAssignedPaths_annotations]
  · simp [here]

/-- An export with other annotations is the export of the document with those annotations. -/
theorem apply_putAnnotations (sorted : manifest.Sorted) :
    DocumentFilter.serverAssigned.apply (putAnnotations annotations manifest) =
      putAnnotations annotations (DocumentFilter.serverAssigned.apply manifest) := by
  rw [apply_serverAssigned, apply_serverAssigned]
  cases manifest with
  | mapping root =>
      rw [Sorted] at sorted
      refine congrArg mapping ((ascending_withoutMembers (sorted.1.modify _ _)).ext
        ((ascending_withoutMembers sorted.1).modify _ _) fun name => ?_)
      rw [get?_withoutMembers, Members.get?_modify, Members.get?_modify, get?_withoutMembers]
      by_cases here : name = "metadata"
      · subst here
        cases found : Members.get? root "metadata" with
        | none => simp
        | some held =>
            have heldSorted := Sorted.of_get? sorted.2 found
            cases held with
            | mapping metadata =>
                rw [Sorted] at heldSorted
                have commutes := @withoutMembers_insert_annotations metadata annotations
                  heldSorted.1
                simp [extendsAny_serverAssignedPaths_metadata, changeMembers, without, commutes]
            | _ => simp [extendsAny_serverAssignedPaths_metadata, changeMembers, without]
      · simp [here]
  | _ => simp [putAnnotations, changeMetadata, changeMembers, without]

/-- Server-assigned fields are left out once and for all. -/
theorem apply_serverAssigned_twice (document : Document) :
    DocumentFilter.serverAssigned.apply (DocumentFilter.serverAssigned.apply document) =
      DocumentFilter.serverAssigned.apply document := by
  have merged := (without_without document (extendsAny DocumentFilter.serverAssignedPaths) _
    byKeys_serverAssignedPaths rfl).1
  simpa only [apply_serverAssigned, Bool.or_self] using merged

/-! ## Annotations that are set one after the other -/

/-- A manifest after some annotations were set, each on the export of the one before. -/
def annotatedExport (additions : Members) (manifest : Document) : Document :=
  if additions.isEmpty then manifest
  else putAnnotations (Members.overlay additions (annotationsOf manifest))
    (DocumentFilter.serverAssigned.apply manifest)

theorem annotatedExport_nil (manifest : Document) : annotatedExport [] manifest = manifest := rfl

theorem annotatedExport_of_ne_nil (nonempty : additions ≠ []) (manifest : Document) :
    annotatedExport additions manifest =
      putAnnotations (Members.overlay additions (annotationsOf manifest))
        (DocumentFilter.serverAssigned.apply manifest) := by
  simp [annotatedExport, nonempty]

/-- Setting one more annotation and leaving out server-assigned fields adds to what was set. -/
theorem apply_setAnnotation_annotatedExport
    (set : setAnnotation (annotatedExport additions manifest) key value = .ok annotated)
    (sorted : (annotatedExport additions manifest).Sorted)
    (manifestSorted : manifest.Sorted)
    (isMetadata : manifest.get? "metadata" = some (.mapping metadata)) :
    DocumentFilter.serverAssigned.apply annotated =
      annotatedExport (Members.insert key (.text value) additions) manifest := by
  have inserted : Members.insert key (.text value) additions ≠ [] := by
    intro empty
    have found : Members.get? (Members.insert key (.text value) additions) key =
        some (.text value) := by simp
    simp [empty] at found
  have isAscending : Members.Ascending (annotationsOf manifest) := by
    have annotationsSorted := sorted_annotationsOf manifestSorted
    rw [Sorted] at annotationsSorted
    exact annotationsSorted.1
  rw [annotatedExport_of_ne_nil inserted]
  -- Server-assigned fields are left out at the first export; later ones find none.
  by_cases first : additions = []
  · subst first
    rw [annotatedExport_nil] at set
    rw [annotated_eq_putAnnotations set manifestSorted isMetadata,
      apply_putAnnotations manifestSorted]
    rfl
  · have exportSorted : (DocumentFilter.serverAssigned.apply manifest).Sorted := by
      rw [apply_serverAssigned]
      exact Sorted.without _ _ manifestSorted
    have exported := get?_metadata_export isMetadata
    rw [annotatedExport_of_ne_nil first] at set sorted
    rw [annotated_eq_putAnnotations set sorted (get?_metadata_putAnnotations exported),
      apply_putAnnotations sorted, apply_putAnnotations exportSorted, apply_serverAssigned_twice,
      putAnnotations_putAnnotations, annotationsOf_putAnnotations exported,
      Members.insert_overlay isAscending]

end Document

end BundleTrust
