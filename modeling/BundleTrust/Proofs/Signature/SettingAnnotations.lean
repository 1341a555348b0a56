import BundleTrust.Proofs.Signature.Annotations

/-!
# Annotations that are set in place

A change of the mapping under a key is atomic if the change of that mapping is
(`Atomic.editUnder`): mappings are made only where nothing or null stood, and in an empty mapping
nothing fails.  So setting an annotation either leaves the document as it was or changes one entry
of the annotations (`annotate_atomic`).
-/

namespace BundleTrust

open Document FieldPath

variable {members inner : Members} {manifest : Document} {key value : String}
  {failure reported : SignatureError} {edit : Members → Edited Members}

/-! ## Changes in place -/

/-- A mapping cannot be opened where neither nothing nor null nor a mapping stands. -/
theorem mappingAt_eq_error_iff :
    mappingAt members key failure = .error reported ↔
      reported = failure ∧ ∃ found, Members.get? members key = some found ∧ found ≠ .null ∧
        found.isMapping = false := by
  rw [mappingAt]
  cases Members.get? members key with
  | none => simp
  | some found =>
      cases found <;> simp [isMapping, asMapping?, @eq_comm _ failure]

/-- What counts as a mapping under a key can be opened. -/
theorem HoldsMapping.mappingAt_eq (holds : HoldsMapping members key inner) :
    mappingAt members key failure = .ok inner := by
  rw [mappingAt]
  rcases holds with found | ⟨rfl, missing | isNull⟩
  · rw [found]
  · rw [missing]
  · rw [isNull]

/-- Below a key are the places of what counts as the mapping there. -/
theorem HoldsMapping.at?_eq
    (holds : HoldsMapping members key inner)
    (name : String)
    (rest : FieldPath) :
    (mapping members).at? (.key key :: .key name :: rest) =
      (mapping inner).at? (.key name :: rest) := by
  simp only [at?_key, Document.get?]
  rcases holds with found | ⟨rfl, missing | isNull⟩
  · simp [found]
  · simp [missing]
  · simp [isNull]

/-- A member below a key is one of what counts as a mapping there. -/
theorem exists_holdsMapping_of_at?
    {found : Document}
    {name : String}
    (isFound : (mapping members).at? [.key key, .key name] = some found) :
    ∃ inner, HoldsMapping members key inner ∧ Members.get? inner name = some found := by
  simp only [at?_key, at?_nil, Document.get?,
    Option.bind_eq_some_iff, Option.some.injEq] at isFound
  obtain ⟨held, isHeld, _, isMember, rfl⟩ := isFound
  cases held with
  | mapping inner => exact ⟨inner, .inl isHeld, isMember⟩
  | _ => cases isMember

/-- A change in place that changes nothing where it fails, and does not fail on the empty
mapping. -/
structure Atomic (edit : Members → Edited Members) : Prop where
  /-- A failure leaves the mapping as it was. -/
  unchanged {members : Members} {failure : SignatureError} :
    (mapping members).Sorted → (edit members).outcome = .error failure →
      (edit members).value = members
  /-- The empty mapping can be changed. -/
  succeeds : (edit []).outcome = .ok ()

/-- A change of the mapping under a key is atomic if that of the mapping is. -/
theorem Atomic.editUnder (atomic : Atomic edit) (key : String) (failure : SignatureError) :
    Atomic (editUnder key failure edit) where
  succeeds := by simp [editUnder_eq, mappingAt, atomic.succeeds]
  unchanged {members reported} sorted failed := by
    rw [editUnder_eq] at failed ⊢
    cases found : mappingAt members key failure with
    | error reported => rfl
    | ok inner =>
        rw [found] at failed
        have holds := holdsMapping_of_mappingAt found
        have kept : (edit inner).value = inner := atomic.unchanged (holds.sorted sorted) failed
        rw [Sorted] at sorted
        rcases holds with isMapping | ⟨rfl, -⟩
        · simp [kept, Members.insert_of_get? sorted.1 isMapping]
        · rw [atomic.succeeds] at failed
          cases failed

/-- It fails where no mapping can be opened, and where the change of the mapping fails. -/
theorem outcome_editUnder_eq_error_iff :
    (editUnder key failure edit members).outcome = .error reported ↔
      mappingAt members key failure = .error reported ∨
        ∃ inner, HoldsMapping members key inner ∧ (edit inner).outcome = .error reported := by
  rw [editUnder_eq]
  constructor
  · intro failed
    cases found : mappingAt members key failure with
    | error refused =>
        rw [found] at failed
        cases failed
        exact .inl rfl
    | ok inner =>
        rw [found] at failed
        exact .inr ⟨inner, holdsMapping_of_mappingAt found, failed⟩
  · rintro (refused | ⟨inner, holds, failed⟩)
    · rw [refused]
    · rw [holds.mappingAt_eq]
      exact failed

/-! ## Setting an annotation -/

/-- Where an annotation cannot be set, and what is reported. -/
inductive RefusesAnnotation : Document → SignatureError → Prop where
  /-- The document is no mapping. -/
  | root {manifest : Document} :
      manifest.isMapping = false →
      RefusesAnnotation manifest (.document "manifest must be a mapping")
  /-- Its metadata are there, and neither null nor a mapping. -/
  | metadata {manifest metadata : Document} :
      manifest.get? "metadata" = some metadata → metadata ≠ .null → metadata.isMapping = false →
      RefusesAnnotation manifest (.document "metadata must be a mapping")
  /-- Its annotations are there, and neither null nor a mapping. -/
  | annotations {manifest annotations : Document} :
      manifest.at? (ofKeys ["metadata", "annotations"]) = some annotations →
      annotations ≠ .null → annotations.isMapping = false →
      RefusesAnnotation manifest (.document "annotations must be a mapping")

/-- A document that differs from another in an annotation that it has, and in nothing else but
that its metadata and annotations are mappings. -/
structure DiffersInAnnotation (key value : String) (manifest annotated : Document) : Prop where
  /-- The annotation reads as it was set. -/
  entry : annotation? annotated key = some value
  /-- Metadata and annotations are mappings. -/
  areMappings : ∃ metadata annotations, annotated.get? "metadata" = some (.mapping metadata) ∧
    Members.get? metadata "annotations" = some (.mapping annotations)
  /-- All other annotations are as before. -/
  annotations : ∀ name, name ≠ key →
    annotated.at? (ofKeys ["metadata", "annotations", name]) =
      manifest.at? (ofKeys ["metadata", "annotations", name])
  /-- All other members of the metadata are as before. -/
  metadata : ∀ name, name ≠ "annotations" →
    annotated.at? (ofKeys ["metadata", name]) = manifest.at? (ofKeys ["metadata", name])
  /-- All other members of the document are as before. -/
  root : ∀ name, name ≠ "metadata" → annotated.get? name = manifest.get? name

theorem annotate_of_not_isMapping (noMapping : manifest.isMapping = false) :
    annotate key value manifest = ⟨.error (.document "manifest must be a mapping"), manifest⟩ := by
  cases manifest with
  | mapping => cases noMapping
  | _ => rfl

/-- Setting an annotation fails exactly where it is refused, with what is reported there. -/
theorem outcome_annotate_eq_error_iff :
    (annotate key value manifest).outcome = .error reported ↔
      RefusesAnnotation manifest reported := by
  cases isRoot : manifest.isMapping with
  | false =>
      rw [annotate_of_not_isMapping isRoot]
      constructor
      · rintro ⟨⟩
        exact .root isRoot
      · intro refused
        cases refused with
        | root => rfl
        | metadata isFound =>
            rw [get?_of_not_isMapping isRoot] at isFound
            cases isFound
        | annotations isFound =>
            rw [ofKeys, List.map_cons, at?_key, get?_of_not_isMapping isRoot] at isFound
            cases isFound
  | true =>
      obtain ⟨root, rfl⟩ := isMapping_iff.1 isRoot
      rw [annotate, outcome_editUnder_eq_error_iff, mappingAt_eq_error_iff]
      simp only [outcome_editUnder_eq_error_iff, mappingAt_eq_error_iff]
      constructor
      · rintro (⟨rfl, found, isFound, notNull, noMapping⟩ |
          ⟨metadata, holds, ⟨rfl, found, isFound, notNull, noMapping⟩ | ⟨_, _, none⟩⟩)
        · exact .metadata isFound notNull noMapping
        · have isPlace : (mapping root).at? (ofKeys ["metadata", "annotations"]) = some found :=
            (holds.at?_eq "annotations" []).trans (by simp [Document.get?, isFound])
          exact .annotations isPlace notNull noMapping
        · cases none
      · intro refused
        cases refused with
        | root noMapping => cases noMapping
        | metadata isFound notNull noMapping => exact .inl ⟨rfl, _, isFound, notNull, noMapping⟩
        | annotations isFound notNull noMapping =>
            obtain ⟨metadata, holds, isFound⟩ := exists_holdsMapping_of_at? isFound
            exact .inr ⟨metadata, holds, .inl ⟨rfl, _, isFound, notNull, noMapping⟩⟩

/-- Inserting a text fails nowhere. -/
theorem atomic_insert (key value : String) :
    Atomic fun annotations => ⟨.ok (), Members.insert key (.text value) annotations⟩ where
  unchanged _ failed := by cases failed
  succeeds := rfl

/-- A failure leaves the document as it was. -/
theorem annotate_unchanged
    (sorted : manifest.Sorted)
    (failed : (annotate key value manifest).outcome = .error reported) :
    (annotate key value manifest).value = manifest := by
  cases manifest with
  | mapping root =>
      have atomic := ((atomic_insert key value).editUnder "annotations"
        (.document "annotations must be a mapping")).editUnder "metadata"
          (.document "metadata must be a mapping")
      exact congrArg mapping (atomic.unchanged sorted failed)
  | _ => rfl

/-- What is set in place is what is returned. -/
theorem setAnnotation_of_succeeded (succeeded : (annotate key value manifest).outcome = .ok ()) :
    setAnnotation manifest key value = .ok (annotate key value manifest).value := by
  simp only [succeeded, setAnnotation]
  rfl

/-- Where it succeeds, one annotation is changed. -/
theorem differsInAnnotation_annotate
    (succeeded : (annotate key value manifest).outcome = .ok ()) :
    DiffersInAnnotation key value manifest (annotate key value manifest).value := by
  have set := setAnnotation_of_succeeded succeeded
  have entry := annotation?_annotated set key
  rw [if_pos rfl] at entry
  obtain ⟨root, metadata, annotations, rfl, isMetadata, isAnnotations, isAnnotated⟩ :=
    exists_of_annotated set
  rw [isAnnotated] at entry ⊢
  have isMetadata' : Members.get? (Members.insert "metadata"
      (mapping (annotateMetadata key value metadata annotations)) root) "metadata" =
      some (mapping (annotateMetadata key value metadata annotations)) := by
    simp
  have isAnnotations' : Members.get? (annotateMetadata key value metadata annotations)
      "annotations" = some (mapping (Members.insert key (.text value) annotations)) := by
    simp [annotateMetadata]
  refine ⟨entry, ⟨_, _, isMetadata', isAnnotations'⟩, fun name other => ?_, fun name other => ?_,
    fun name other => ?_⟩
  · simp only [ofKeys, List.map_cons, List.map_nil]
    rw [HoldsMapping.at?_eq (.inl isMetadata'), HoldsMapping.at?_eq (.inl isAnnotations'),
      isMetadata.at?_eq, isAnnotations.at?_eq]
    simp [Document.get?, other]
  · simp only [ofKeys, List.map_cons, List.map_nil]
    rw [HoldsMapping.at?_eq (.inl isMetadata'), isMetadata.at?_eq]
    simp [Document.get?, annotateMetadata, other]
  · simp [Document.get?, other]

/-- Where metadata and annotations count as mappings, the annotation is set. -/
theorem annotate_of_holdsMapping
    {root metadata annotations : Members}
    (isMetadata : HoldsMapping root "metadata" metadata)
    (isAnnotations : HoldsMapping metadata "annotations" annotations) :
    annotate key value (mapping root) = ⟨.ok (), mapping (Members.insert "metadata"
      (mapping (annotateMetadata key value metadata annotations)) root)⟩ := by
  simp only [annotate, editUnder_eq, isMetadata.mappingAt_eq, isAnnotations.mappingAt_eq]
  rfl

/-- Setting an annotation again is to set it once. -/
theorem annotate_annotate
    (succeeded : (annotate key value manifest).outcome = .ok ())
    (other : String) :
    annotate key other (annotate key value manifest).value = annotate key other manifest := by
  have set := setAnnotation_of_succeeded succeeded
  obtain ⟨root, metadata, annotations, rfl, isMetadata, isAnnotations, isAnnotated⟩ :=
    exists_of_annotated set
  rw [isAnnotated, annotate_of_holdsMapping isMetadata isAnnotations,
    @annotate_of_holdsMapping key other _ (annotateMetadata key value metadata annotations)
      (Members.insert key (.text value) annotations) (.inl (by simp))
      (.inl (by simp [annotateMetadata]))]
  simp only [annotateMetadata, Members.insert_insert]

/-- Setting an annotation in place fails exactly where the document, its metadata or its annotations
are there and, but for null in the latter two, no mapping.  A failure leaves the document as it
was, and where there is none, the annotation reads as it was set, nothing else has changed but
that metadata and annotations are mappings, and setting the annotation again replaces it. -/
theorem annotate_atomic (sorted : manifest.Sorted) (key value : String) :
    (∀ failure, (annotate key value manifest).outcome = .error failure ↔
        RefusesAnnotation manifest failure) ∧
      (∀ failure, (annotate key value manifest).outcome = .error failure →
        (annotate key value manifest).value = manifest) ∧
      ((annotate key value manifest).outcome = .ok () →
        DiffersInAnnotation key value manifest (annotate key value manifest).value ∧
          ∀ other, annotate key other (annotate key value manifest).value =
            annotate key other manifest) :=
  ⟨fun _ => outcome_annotate_eq_error_iff, fun _ => annotate_unchanged sorted,
    fun succeeded => ⟨differsInAnnotation_annotate succeeded, annotate_annotate succeeded⟩⟩

/-- An annotation is set where the metadata are null, and not where the annotations are a list. -/
theorem annotate_null_metadata :
    DiffersInAnnotation "owner" "platform" (.mapping [("metadata", .null)])
        (.mapping [("metadata", .mapping [("annotations",
          .mapping [("owner", .text "platform")])])]) ∧
      (annotate "owner" "platform"
        (.mapping [("metadata", .mapping [("annotations", .list [])])])).outcome =
        .error (.document "annotations must be a mapping") := by
  have sorted : (mapping [("metadata", .null)]).Sorted := by
    simp [Sorted, SortedMembers, Members.Ascending]
  have sorted' : (mapping [("metadata", .mapping [("annotations", .list [])])]).Sorted := by
    simp [Sorted, SortedMembers, SortedItems, Members.Ascending]
  exact ⟨((annotate_atomic sorted "owner" "platform").2.2 rfl).1,
    ((annotate_atomic sorted' "owner" "platform").1 _).2 (.annotations rfl (by simp) rfl)⟩

end BundleTrust
