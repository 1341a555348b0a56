import BundleTrust.Proofs.Bundle.Manifest

/-!
# Bundles read back

A bundle is read back from its manifest as it was written (`Bundle.ofDocument?_toManifest`).  A
field is left out of a manifest only where it has the value that it is read with if it is missing;
and what a field reads does not depend on the order of the keys.
-/

namespace BundleTrust

open Document

/-! ## Values and lists -/

/-- What is written is read back, once its keys are put in order. -/
def ReadsBack {Value : Type} (write : Value → Document) (read : Document → Option Value) : Prop :=
  ∀ value, read (write value).sortKeys = some value

namespace ReadsBack

variable {Value : Type} {write : Value → Document} {read : Document → Option Value}

theorem text : ReadsBack Document.text asText? := by
  intro value
  simp [sortKeys, asText?]

/-- A list is read back if its items are. -/
theorem list (item : ReadsBack write read) :
    ReadsBack (fun items : List Value => Document.list (items.map write)) (asListOf? read) := by
  intro items
  rw [sortKeys, asListOf?, asItems?, Option.bind_some]
  induction items with
  | nil => rfl
  | cons first items ih =>
      rw [List.map_cons, sortKeysInItems, List.mapM_cons, item first, ih]
      rfl

end ReadsBack

/-- Generic values are read as they are. -/
theorem mapM_some {Value : Type} (values : List Value) : values.mapM some = some values :=
  (List.mapM_pure (f := id)).trans (congrArg some (List.map_id values))

/-- A number is read back. -/
theorem readsBack_int64 :
    ReadsBack (fun value : Int64 => .integer (.ofInt64 value)) asInt64? := by
  intro value
  have inRange : Int64.minValue.toInt ≤ value.toInt ∧ value.toInt ≤ Int64.maxValue.toInt :=
    ⟨value.minValue_le_toInt, value.toInt_le⟩
  rw [sortKeys, asInt64?, asInteger?, Option.bind_some, WideInteger.ofInt64, if_pos inRange,
    Int64.ofInt_toInt]
  all_goals simp

/-! ## Fields -/

/-- The fields of a record are found where they stand when its keys are put in order. -/
theorem exists_sortedRecord
    {members : Members}
    (document : Document)
    (names : List String)
    (isMapping : document = .mapping members)
    (isRecord : (members.map Prod.fst).Sublist names)
    (different : names.Nodup) :
    ∃ sorted, document.sortKeys = .mapping sorted ∧
      ∀ key, Members.get? sorted key = (document.get? key).map sortKeys := by
  subst isMapping
  exact ⟨_, by rw [sortKeys], get?_sortKeys (different.sublist isRecord)⟩

namespace Members

variable {Value : Type} {members : Members} {record document : Document} {name : String}
  {read : Document → Option Value}

section Fields

variable (found : ∀ key, get? members key = (record.get? key).map sortKeys)

include found

/-- A field that is always written is read. -/
theorem field?_of_written
    {value : Value}
    (written : record.get? name = some document)
    (readsBack : read document.sortKeys = some value) :
    field? members name read = some value := by
  rw [field?, found, written]
  exact readsBack

/-- A field that is left out where it has its default is read with that default. -/
theorem fieldOr?_of_omitIf
    {value default : Value}
    (isOmitted : Bool)
    (written : record.get? name = if isOmitted then none else some document)
    (readsBack : read document.sortKeys = some value)
    (isDefault : isOmitted = true → value = default) :
    fieldOr? members name default read = some value := by
  rw [fieldOr?, found, written]
  cases isOmitted with
  | true => rw [isDefault rfl]; rfl
  | false => exact readsBack

/-- A field with a default that is always written is read. -/
theorem fieldOr?_of_written
    {value : Value}
    (default : Value)
    (written : record.get? name = some document)
    (readsBack : read document.sortKeys = some value) :
    fieldOr? members name default read = some value :=
  fieldOr?_of_omitIf found false written readsBack (absurd · Bool.false_ne_true)

/-- A text that is left out where it is empty is read. -/
theorem fieldOr?_of_ofText
    {text : String}
    (written : record.get? name =
      if text.isEmpty then none else some (Document.text text)) :
    fieldOr? members name "" asText? = some text :=
  fieldOr?_of_omitIf found _ written (ReadsBack.text text) String.isEmpty_iff.1

/-- A field that is left out where there is no value is read without one. -/
theorem fieldOr?_of_ofOption
    {value : Option Value}
    (write : Value → Document)
    (written : record.get? name = value.map write)
    (readsBack : ∀ present, value = some present → read (write present).sortKeys = some present)
    (notNull : ∀ present, (write present).sortKeys ≠ .null) :
    fieldOr? members name none (asOptional? read) = some value := by
  rw [fieldOr?, found, written]
  cases value with
  | none => rfl
  | some value =>
      have present := readsBack value rfl
      simp only [Option.map_some]
      cases written : (write value).sortKeys with
      | null => exact absurd written (notNull value)
      | _ => rw [written] at present; simp only [asOptional?, present, Option.map_some]

/-- A text that may be missing is read. -/
theorem fieldOr?_of_text
    {value : Option String}
    (written : record.get? name = value.map Document.text) :
    fieldOr? members name none (asOptional? asText?) = some value :=
  fieldOr?_of_ofOption found .text written (fun present _ => ReadsBack.text present)
    (by simp [sortKeys])

end Fields

end Members

/-! ## Packages -/

theorem VersionImage.readsBack : ReadsBack toDocument ofDocument? := by
  intro image
  obtain ⟨members, isRecord, found⟩ := exists_sortedRecord image.toDocument
    ["repository", "digest"] rfl (.refl _) (by decide)
  have repository : Members.field? members "repository" asText? = some image.repository :=
    Members.field?_of_written found rfl (ReadsBack.text _)
  have digest : Members.field? members "digest" asText? = some image.digest :=
    Members.field?_of_written found rfl (ReadsBack.text _)
  simp [isRecord, ofDocument?, asRecord?, repository, digest]

theorem PackageVersion.readsBack : ReadsBack toDocument ofDocument? := by
  intro version
  obtain ⟨members, isRecord, found⟩ := exists_sortedRecord version.toDocument
    (fields.map Prod.fst) rfl (by
      rw [List.map_append, List.map_append]
      exact ((List.Sublist.refl ["name", "digest"]).append
        (Members.keys_omitIf_sublist _ "schema" _)).append
        (Members.keys_omitIf_sublist _ "images" _)) (by decide)
  have name : Members.field? members "name" asText? = some version.name :=
    Members.field?_of_written found rfl (ReadsBack.text _)
  have digest : Members.field? members "digest" asText? = some version.digest :=
    Members.field?_of_written found rfl (ReadsBack.text _)
  have schema : Members.fieldOr? members "schema" "" asText? = some version.schema :=
    Members.fieldOr?_of_ofText found (by simp [toDocument, Document.get?, Members.ofText])
  have images : Members.fieldOr? members "images" [] (asListOf? VersionImage.ofDocument?) =
      some version.images :=
    Members.fieldOr?_of_omitIf found version.images.isEmpty
      (by simp [toDocument, Document.get?, Members.ofText])
      (VersionImage.readsBack.list _) List.isEmpty_iff.1
  simp [isRecord, ofDocument?, asRecord?, name, digest, schema, images]

theorem PackageSource.readsBack : ReadsBack toDocument ofDocument? := by
  intro source
  obtain ⟨members, isRecord, found⟩ := exists_sortedRecord source.toDocument
    (fields.map Prod.fst) rfl (by
      rw [List.map_append]
      exact (Members.keys_omitIf_sublist _ "registry" _).append (.refl ["repository", "versions"]))
    (by decide)
  have registry : Members.fieldOr? members "registry" "" asText? = some source.registry :=
    Members.fieldOr?_of_ofText found (by simp [toDocument, Document.get?, Members.ofText])
  have repository : Members.field? members "repository" asText? = some source.repository :=
    Members.field?_of_written found (by simp [toDocument, Document.get?, Members.ofText])
      (ReadsBack.text _)
  have versions : Members.fieldOr? members "versions" []
      (asListOf? PackageVersion.ofDocument?) = some source.versions :=
    Members.fieldOr?_of_written found _ (by simp [toDocument, Document.get?, Members.ofText])
      (PackageVersion.readsBack.list _)
  simp [isRecord, ofDocument?, asRecord?, registry, repository, versions]

theorem Package.readsBack : ReadsBack toDocument ofDocument? := by
  intro package
  obtain ⟨members, isRecord, found⟩ := exists_sortedRecord package.toDocument
    (fields.map Prod.fst) rfl (by
      rw [List.map_append]
      exact (Members.keys_omitIf_sublist _ "name" _).append (.refl ["source"]))
    (by decide)
  have name : Members.fieldOr? members "name" "" asText? = some package.name :=
    Members.fieldOr?_of_ofText found (by simp [toDocument, Document.get?, Members.ofText])
  have source : Members.field? members "source" PackageSource.ofDocument? =
      some package.source :=
    Members.field?_of_written found (by simp [toDocument, Document.get?, Members.ofText])
      (PackageSource.readsBack _)
  simp [isRecord, ofDocument?, asRecord?, name, source]

/-! ## Metadata -/

/-- Labels and annotations are read back. -/
theorem TextMap.readsBack : ReadsBack toDocument ofDocument? := by
  intro map
  have read : (map.entries.map fun entry => (entry.1, Document.text entry.2)).mapM
      entryOfMember? = some map.entries := by
    induction map.entries with
    | nil => rfl
    | cons entry entries ih =>
        rw [List.map_cons, List.mapM_cons, ih]
        rfl
  rw [sortKeys_of_sorted _ map.sorted_toDocument, toDocument, ofDocument?, read, Option.map_some]
  simp only [ofList, Members.ofList_of_ascending map.ascending]

theorem TextMap.eq_empty_of_isEmpty {map : TextMap} (isEmpty : map.isEmpty = true) :
    map = .empty := by
  obtain ⟨entries, ascending⟩ := map
  obtain rfl : entries = [] := List.isEmpty_iff.1 isEmpty
  rfl

namespace Metadata

/-- What is said about the managers of fields has its keys in order. -/
def HasSortedManagers (metadata : Metadata) : Prop :=
  ∀ managers, metadata.managedFields = some managers → SortedItems managers

/-- Metadata are read back. -/
theorem ofDocument?_sortKeys_toDocument
    {metadata : Metadata}
    (sortedManagers : metadata.HasSortedManagers) :
    ofDocument? metadata.toDocument.sortKeys = some metadata := by
  obtain ⟨_, isMapping, isRecord⟩ := metadata.keys_toDocument
  obtain ⟨members, sorted, found⟩ := exists_sortedRecord _ _ isMapping isRecord (by decide)
  have name : Members.fieldOr? members "name" "" asText? = some metadata.name :=
    Members.fieldOr?_of_written found _ rfl (ReadsBack.text _)
  have space : Members.fieldOr? members "namespace" "" asText? = some metadata.space :=
    Members.fieldOr?_of_ofText found (by simp [toDocument, Document.get?, Members.ofText])
  have labels : Members.fieldOr? members "labels" .empty TextMap.ofDocument? =
      some metadata.labels :=
    Members.fieldOr?_of_omitIf found metadata.labels.isEmpty
      (by simp [toDocument, Document.get?, Members.ofText])
      (TextMap.readsBack _) TextMap.eq_empty_of_isEmpty
  have annotations : Members.fieldOr? members "annotations" .empty TextMap.ofDocument? =
      some metadata.annotations :=
    Members.fieldOr?_of_omitIf found metadata.annotations.isEmpty
      (by simp [toDocument, Document.get?, Members.ofText])
      (TextMap.readsBack _) TextMap.eq_empty_of_isEmpty
  have creationTimestamp : Members.fieldOr? members "creationTimestamp" none
      (asOptional? asText?) = some metadata.creationTimestamp :=
    Members.fieldOr?_of_text found (by simp [toDocument, Document.get?, Members.ofText])
  have generation : Members.fieldOr? members "generation" none (asOptional? asInt64?) =
      some metadata.generation :=
    Members.fieldOr?_of_ofOption found _
      (by simp [toDocument, Document.get?, Members.ofText])
      (fun present _ => readsBack_int64 present) (by simp [sortKeys])
  have managedFields : Members.fieldOr? members "managedFields" none
      (asOptional? (asListOf? some)) = some metadata.managedFields := by
    refine Members.fieldOr?_of_ofOption found .list
      (by simp [toDocument, Document.get?, Members.ofText])
      (fun managers isManagers => ?_) (by simp [sortKeys])
    rw [sortKeys, sortKeysInItems_of_sorted _ (sortedManagers managers isManagers)]
    exact mapM_some managers
  have uid : Members.fieldOr? members "uid" none (asOptional? asText?) = some metadata.uid :=
    Members.fieldOr?_of_text found (by simp [toDocument, Document.get?, Members.ofText])
  have resourceVersion : Members.fieldOr? members "resourceVersion" none (asOptional? asText?) =
      some metadata.resourceVersion :=
    Members.fieldOr?_of_text found (by simp [toDocument, Document.get?, Members.ofText])
  simp [sorted, ofDocument?, asRecord?, name, space, labels, annotations, creationTimestamp,
    generation, managedFields, uid, resourceVersion]

end Metadata

/-! ## What is read of a sorted document -/

/-- The fields of a sorted record are sorted, whether it is a mapping or a list. -/
theorem Document.Sorted.of_asRecord?
    {document : Document}
    {names : List String}
    {members : Members}
    (sorted : document.Sorted)
    (isRecord : document.asRecord? names = some members) :
    SortedMembers members := by
  cases document with
  | mapping =>
      obtain rfl := Option.some.inj isRecord
      rw [Sorted] at sorted
      exact sorted.2
  | list items =>
      rw [Sorted] at sorted
      obtain ⟨-, isZip⟩ := Option.ite_none_right_eq_some.1 isRecord
      obtain rfl := Option.some.inj isZip
      refine sortedMembers_iff.2 fun member isMember => ?_
      exact sortedItems_iff.1 sorted member.2 (List.of_mem_zip isMember).2
  | _ => cases isRecord

namespace Metadata

/-- Metadata that are read of a sorted document have sorted managers. -/
theorem hasSortedManagers_of_ofDocument?
    {document : Document}
    {metadata : Metadata}
    (sorted : document.Sorted)
    (read : ofDocument? document = some metadata) :
    metadata.HasSortedManagers := by
  simp only [ofDocument?, Option.bind_eq_bind, Option.bind_eq_some_iff, Option.some.injEq] at read
  obtain ⟨members, isRecord, -, -, -, -, -, -, -, -, -, -, -, -, managed, readManagers, -, -, -, -,
    rfl⟩ := read
  rintro managers rfl
  rw [Members.fieldOr?] at readManagers
  split at readManagers
  · next value found =>
      have sortedValue := Sorted.of_get? (sorted.of_asRecord? isRecord) found
      cases value with
      | list items =>
          have readItems : items.mapM some = some managers := by
            simpa [asOptional?, asListOf?, asItems?] using readManagers
          have isItems : items = managers := Option.some.inj
            ((mapM_some items).symm.trans readItems)
          rw [Sorted] at sortedValue
          exact isItems ▸ sortedValue
      | _ => simp [asOptional?, asListOf?, asItems?] at readManagers
  · cases readManagers

/-- So have metadata that are a field of a sorted record. -/
theorem hasSortedManagers_of_fieldOr?
    {members : Members}
    {metadata : Metadata}
    (sorted : SortedMembers members)
    (read : members.fieldOr? "metadata" (.named "" "") ofDocument? = some metadata) :
    metadata.HasSortedManagers := by
  rw [Members.fieldOr?] at read
  split at read
  · next found => exact hasSortedManagers_of_ofDocument? (Sorted.of_get? sorted found) read
  · obtain rfl := Option.some.inj read
    rintro managers ⟨⟩

end Metadata

/-! ## Bundles -/

namespace BundleState

theorem ofName_name (state : BundleState) : ofName state.name = state := by
  cases state <;> decide

/-- The state of a bundle is read back. -/
theorem ofStatus?_statusDocument (state : BundleState) :
    ofStatus? (Bundle.statusDocument state).sortKeys = some (some state) := by
  obtain ⟨members, isRecord, found⟩ := exists_sortedRecord
    (Bundle.statusDocument state) ["state"] rfl (.refl _) (by decide)
  have name : Members.get? members "state" = some (.text state.name) := by
    rw [found]
    simp [Bundle.statusDocument, Document.get?, sortKeys]
  simp [isRecord, ofStatus?, asRecord?, Members.fieldOr?, name, asOptional?, ofDocument?,
    asChoice?, ofName_name]

end BundleState

namespace Bundle

/-- The packages of a bundle are read back. -/
theorem packagesOfDocument?_sortKeys (packages : List Package) :
    packagesOfDocument?
        (Document.mapping [("packages", .list (packages.map Package.toDocument))]).sortKeys =
      some packages := by
  obtain ⟨members, isRecord, found⟩ := exists_sortedRecord
    (.mapping [("packages", .list (packages.map Package.toDocument))]) ["packages"] rfl
    (.refl _) (by decide)
  have read : Members.fieldOr? members "packages" [] (asListOf? Package.ofDocument?) =
      some packages :=
    Members.fieldOr?_of_written found _ rfl (Package.readsBack.list packages)
  simp [isRecord, packagesOfDocument?, asRecord?, read]

/-- A bundle is read back from its manifest. -/
theorem ofDocument?_toManifest
    {bundle : Bundle}
    (sortedManagers : bundle.metadata.HasSortedManagers) :
    ofDocument? bundle.toManifest = some bundle := by
  obtain ⟨members, isRecord, found⟩ := exists_sortedRecord bundle.toDocument
    (fields.map Prod.fst) rfl (by
      rw [List.map_append]
      exact (List.Sublist.refl ["apiVersion", "kind", "metadata", "spec"]).append
        (Members.keys_ofOption_sublist "status" _ _)) (by decide)
  have apiVersion : Members.fieldOr? members "apiVersion" apiVersionText asText? =
      some bundle.apiVersion :=
    Members.fieldOr?_of_written found _ rfl (ReadsBack.text _)
  have kind : Members.fieldOr? members "kind" ResourceKind.bundle.name asText? =
      some bundle.kind :=
    Members.fieldOr?_of_written found _ rfl (ReadsBack.text _)
  have metadata : Members.fieldOr? members "metadata" (.named "" "") Metadata.ofDocument? =
      some bundle.metadata :=
    Members.fieldOr?_of_written found _ rfl
      (Metadata.ofDocument?_sortKeys_toDocument sortedManagers)
  have packages : Members.fieldOr? members "spec" [] packagesOfDocument? =
      some bundle.packages :=
    Members.fieldOr?_of_written found _ rfl (packagesOfDocument?_sortKeys _)
  have state : Members.fieldOr? members "status" none BundleState.ofStatus? =
      some bundle.state := by
    rw [Members.fieldOr?, found]
    cases isState : bundle.state with
    | none => simp [toDocument, Document.get?, isState]
    | some state =>
        simp [toDocument, Document.get?, isState, BundleState.ofStatus?_statusDocument]
  simp [toManifest, isRecord, ofDocument?, asRecord?, apiVersion, kind, metadata, packages, state]

/-- A bundle that is read of a sorted document has sorted managers. -/
theorem hasSortedManagers_of_ofDocument?
    {document : Document}
    {bundle : Bundle}
    (sorted : document.Sorted)
    (read : ofDocument? document = some bundle) :
    bundle.metadata.HasSortedManagers := by
  simp only [ofDocument?, Option.bind_eq_bind, Option.bind_eq_some_iff, Option.some.injEq] at read
  obtain ⟨members, isRecord, -, -, -, -, metadata, readMetadata, -, -, -, -, rfl⟩ := read
  exact Metadata.hasSortedManagers_of_fieldOr? (sorted.of_asRecord? isRecord) readMetadata

end Bundle

end BundleTrust
