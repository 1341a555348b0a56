import BundleTrust.Admission
import BundleTrust.Lifecycle.Evaluation
import BundleTrust.Proofs.Signature.EqualViews

/-!
# The manifests of bundles

A bundle is written as a manifest with its keys put in order.  What stands under a key of that
manifest is what the bundle has there, so that it has the name and the annotations of the bundle
(`Bundle.manifestName_toManifest`, `Bundle.annotation?_toManifest`).  A document that a bundle
is read of has them too, unless it has lists in place of mappings
(`Bundle.name_and_annotations_of_ofDocument?`).
-/

namespace BundleTrust

open Document FieldPath

/-! ## Keys put in order -/

namespace Members

section Lookup

variable {Value : Type} {members others : List (String × Value)} {key name : String}

/-- Members with different keys answer every lookup as before when they are put in order. -/
theorem get?_ofList (different : (members.map Prod.fst).Nodup) (key : String) :
    get? (ofList members) key = get? members key := by
  suffices ∀ sorted : List (String × Value),
      get? (members.foldl (fun sorted member => insert member.1 member.2 sorted) sorted) key =
        (get? members key).or (get? sorted key) by
    exact (this []).trans (Option.or_none)
  induction members with
  | nil => simp
  | cons member members ih =>
      intro sorted
      obtain ⟨new, different⟩ := List.nodup_cons.1 different
      rw [List.foldl_cons, ih different, get?_insert, get?_cons]
      split
      · next here =>
          have absent : get? members key = none := by
            cases found : get? members key with
            | none => rfl
            | some value =>
                exact absurd (List.mem_map_of_mem (mem_of_get? found)) (here ▸ new)
          simp [absent]
      · rfl

@[simp] theorem get?_append :
    get? (members ++ others) key = (get? members key).or (get? others key) :=
  List.lookup_append

@[simp] theorem get?_omitIf (isOmitted : Bool) (value : Document) :
    get? (omitIf isOmitted name value) key =
      if isOmitted then none else if key = name then some value else none := by
  cases isOmitted <;> simp [omitIf]

@[simp] theorem get?_ofOption (write : Value → Document) (value : Option Value) :
    get? (ofOption name write value) key =
      if key = name then value.map write else none := by
  cases value <;> simp [ofOption]

/-- The keys of an optional field. -/
theorem keys_omitIf_sublist (isOmitted : Bool) (name : String) (value : Document) :
    ((omitIf isOmitted name value).map Prod.fst).Sublist [name] := by
  cases isOmitted <;> simp [omitIf]

theorem keys_ofOption_sublist (name : String) (write : Value → Document) (value : Option Value) :
    ((ofOption name write value).map Prod.fst).Sublist [name] := by
  cases value <;> simp [ofOption]

/-- The keys of a field and of those after it. -/
theorem keys_append_sublist
    {keys rest names : List String}
    (field : keys.Sublist [name])
    (later : rest.Sublist names) :
    (keys ++ rest).Sublist (name :: names) :=
  field.append later

end Lookup

end Members

namespace Document

theorem get?_sortKeysInMembers (members : Members) (key : String) :
    Members.get? (sortKeysInMembers members) key = (Members.get? members key).map sortKeys := by
  induction members with
  | nil => simp [sortKeysInMembers]
  | cons member members ih =>
      rw [sortKeysInMembers, Members.get?_cons, Members.get?_cons, ih]
      split <;> rfl

theorem keys_sortKeysInMembers (members : Members) :
    (sortKeysInMembers members).map Prod.fst = members.map Prod.fst := by
  induction members with
  | nil => simp [sortKeysInMembers]
  | cons member members ih => rw [sortKeysInMembers, List.map_cons, List.map_cons, ih]

/-- A mapping with different keys answers every lookup as before when its keys are put in
order. -/
theorem get?_sortKeys
    {members : Members}
    (different : (members.map Prod.fst).Nodup)
    (key : String) :
    (mapping members).sortKeys.get? key = (Members.get? members key).map sortKeys := by
  rw [sortKeys, Document.get?, Members.get?_ofList (by rwa [keys_sortKeysInMembers]),
    get?_sortKeysInMembers]

end Document

/-! ## Labels and annotations -/

theorem TextMap.get?_toDocument (map : TextMap) (key : String) :
    map.toDocument.get? key = (map.get? key).map Document.text := by
  rw [toDocument, Document.get?, get?]
  induction map.entries with
  | nil => rfl
  | cons entry entries ih =>
      rw [List.map_cons, Members.get?_cons, Members.get?_cons, ih]
      split <;> rfl

theorem TextMap.sorted_toDocument (map : TextMap) : map.toDocument.Sorted := by
  rw [toDocument, Sorted]
  refine ⟨List.Pairwise.map _ (fun _ _ below => below) map.ascending,
    sortedMembers_iff.2 fun member isMember => ?_⟩
  obtain ⟨entry, -, rfl⟩ := List.mem_map.1 isMember
  trivial

/-! ## Metadata -/

namespace Metadata

variable (metadata : Metadata) (key : String)

/-- The keys of metadata are those of their fields. -/
theorem keys_toDocument :
    ∃ members, metadata.toDocument = .mapping members ∧
      (members.map Prod.fst).Sublist (fields.map Prod.fst) := by
  refine ⟨_, rfl, ?_⟩
  simp only [List.map_cons, List.map_append, List.append_assoc]
  refine .cons_cons "name" ?_
  refine Members.keys_append_sublist (Members.keys_omitIf_sublist _ "namespace" _) ?_
  refine Members.keys_append_sublist (Members.keys_omitIf_sublist _ "labels" _) ?_
  refine Members.keys_append_sublist (Members.keys_omitIf_sublist _ "annotations" _) ?_
  refine Members.keys_append_sublist (Members.keys_ofOption_sublist _ _ _) ?_
  refine Members.keys_append_sublist (Members.keys_ofOption_sublist _ _ _) ?_
  refine Members.keys_append_sublist (Members.keys_ofOption_sublist _ _ _) ?_
  refine Members.keys_append_sublist (Members.keys_ofOption_sublist _ _ _) ?_
  exact Members.keys_ofOption_sublist _ _ _

/-- What metadata have under a key when their keys are put in order. -/
theorem get?_sortKeys_toDocument :
    metadata.toDocument.sortKeys.get? key = (metadata.toDocument.get? key).map sortKeys := by
  obtain ⟨members, isMapping, isRecord⟩ := metadata.keys_toDocument
  rw [isMapping]
  exact get?_sortKeys ((by decide : (fields.map Prod.fst).Nodup).sublist isRecord) key

/-- The texts that metadata have. -/
theorem get?_name_toDocument : metadata.toDocument.get? "name" = some (.text metadata.name) := by
  simp [toDocument, Document.get?]

theorem get?_space_toDocument :
    metadata.toDocument.get? "namespace" =
      if metadata.space = "" then none else some (.text metadata.space) := by
  simp [toDocument, Document.get?, Members.ofText, String.isEmpty_iff]

theorem get?_annotations_toDocument :
    metadata.toDocument.get? "annotations" =
      if metadata.annotations.isEmpty then none else some metadata.annotations.toDocument := by
  simp [toDocument, Document.get?, Members.ofText]

/-- Annotations are written in order. -/
theorem sortKeys_annotations_toDocument :
    (metadata.toDocument.get? "annotations").map sortKeys =
      if metadata.annotations.isEmpty then none else some metadata.annotations.toDocument := by
  rw [get?_annotations_toDocument]
  split
  · rfl
  · rw [Option.map_some, sortKeys_of_sorted _ (TextMap.sorted_toDocument _)]

/-- Metadata with another name, namespace and version have the same under a key for which these do
not matter. -/
theorem get?_toDocument_congr
    {space name : String}
    {version : Option String}
    (sameName : key = "name" → name = metadata.name)
    (sameSpace : key = "namespace" → space = metadata.space)
    (notVersion : key ≠ "resourceVersion") :
    ({ metadata with space := space, name := name, resourceVersion := version } :
        Metadata).toDocument.get? key =
      metadata.toDocument.get? key := by
  by_cases isName : key = "name"
  · rw [isName, get?_name_toDocument, get?_name_toDocument]
    exact congrArg (some ∘ text) (sameName isName)
  by_cases isSpace : key = "namespace"
  · rw [isSpace, get?_space_toDocument, get?_space_toDocument, ← sameSpace isSpace]
  · simp [toDocument, Document.get?, Members.ofText, isName, isSpace, notVersion]

end Metadata

/-! ## Bundles -/

namespace Bundle

variable (bundle : Bundle) (key : String)

theorem sorted_toManifest : bundle.toManifest.Sorted :=
  sorted_sortKeys _

/-- What a bundle has under a key when its keys are put in order. -/
theorem get?_toManifest :
    bundle.toManifest.get? key = (bundle.toDocument.get? key).map sortKeys := by
  refine get?_sortKeys (List.Nodup.sublist ?_ (by decide : (fields.map Prod.fst).Nodup)) key
  refine .cons_cons "apiVersion" (.cons_cons "kind" (.cons_cons "metadata" (.cons_cons "spec" ?_)))
  exact Members.keys_ofOption_sublist _ _ _

theorem get?_metadata_toManifest :
    bundle.toManifest.get? "metadata" = some bundle.metadata.toDocument.sortKeys := by
  rw [get?_toManifest]
  simp [toDocument, Document.get?]

/-- The metadata of a manifest are a mapping. -/
theorem exists_metadata_toManifest :
    ∃ members, bundle.toManifest.get? "metadata" = some (.mapping members) ∧
      ∀ key, Members.get? members key = (bundle.metadata.toDocument.get? key).map sortKeys := by
  refine ⟨_, bundle.get?_metadata_toManifest.trans (by rw [Metadata.toDocument, sortKeys]),
    fun key => ?_⟩
  rw [← bundle.metadata.get?_sortKeys_toDocument key, Metadata.toDocument, sortKeys]
  rfl

/-- What a manifest has under a key of its metadata. -/
theorem at?_toManifest :
    bundle.toManifest.at? (ofKeys ["metadata", key]) =
      (bundle.metadata.toDocument.get? key).map sortKeys := by
  simp [ofKeys, get?_metadata_toManifest, Metadata.get?_sortKeys_toDocument]

/-- A manifest has the name of its bundle. -/
theorem manifestName_toManifest : manifestName bundle.toManifest = bundle.name := by
  rw [manifestName, get?_metadata_toManifest, Option.bind_some,
    Metadata.get?_sortKeys_toDocument, Metadata.get?_name_toDocument]
  simp [sortKeys, asText?, name]

/-- A manifest has the annotations of its bundle. -/
theorem annotation?_toManifest :
    annotation? bundle.toManifest key = bundle.metadata.annotations.get? key := by
  rw [annotation?, get?_metadata_toManifest, Option.bind_some,
    Metadata.get?_sortKeys_toDocument, Metadata.sortKeys_annotations_toDocument]
  split
  · next isEmpty =>
      have none : bundle.metadata.annotations.entries = [] := List.isEmpty_iff.1 isEmpty
      rw [TextMap.get?, none]
      rfl
  · rw [Option.bind_some, TextMap.get?_toDocument]
    cases bundle.metadata.annotations.get? key <;> rfl

end Bundle

/-! ## What is read of a document -/

namespace Members

/-- Members in order have different keys. -/
theorem Ascending.nodup_keys {Value : Type}
    {members : List (String × Value)}
    (ascending : Ascending members) :
    (members.map Prod.fst).Nodup := by
  refine List.pairwise_map.2 (ascending.imp fun {left right} below same => ?_)
  rw [same] at below
  exact String.lt_irrefl _ below

variable {members : Members} {entries : List (String × String)}

/-- A mapping whose values are texts is read key by key. -/
theorem keys_eq_of_mapM (read : members.mapM TextMap.entryOfMember? = some entries) :
    entries.map Prod.fst = members.map Prod.fst := by
  induction members generalizing entries with
  | nil => cases read; rfl
  | cons member members ih =>
      simp only [List.mapM_cons, Option.pure_def, Option.bind_eq_bind, Option.bind_eq_some_iff,
        TextMap.entryOfMember?, Option.map_eq_some_iff] at read
      obtain ⟨entry, ⟨text, -, rfl⟩, rest, readRest, isAll⟩ := read
      obtain rfl := Option.some.inj isAll
      rw [List.map_cons, List.map_cons, ih readRest]

theorem get?_of_mapM
    (read : members.mapM TextMap.entryOfMember? = some entries)
    (key : String) :
    get? entries key = (get? members key).bind asText? := by
  induction members generalizing entries with
  | nil => cases read; rfl
  | cons member members ih =>
      simp only [List.mapM_cons, Option.pure_def, Option.bind_eq_bind, Option.bind_eq_some_iff,
        TextMap.entryOfMember?, Option.map_eq_some_iff] at read
      obtain ⟨entry, ⟨text, isText, rfl⟩, rest, readRest, isAll⟩ := read
      obtain rfl := Option.some.inj isAll
      rw [get?_cons, get?_cons, ih readRest]
      split
      · exact isText.symm
      · rfl

end Members

/-- Texts are read under the keys that they stand under. -/
theorem TextMap.get?_of_ofDocument?
    {document : Document}
    {map : TextMap}
    (sorted : document.Sorted)
    (read : TextMap.ofDocument? document = some map)
    (key : String) :
    map.get? key = (document.get? key).bind asText? := by
  cases document with
  | mapping members =>
      rw [Sorted] at sorted
      obtain ⟨entries, readEntries, rfl⟩ := Option.map_eq_some_iff.1 read
      have different : (entries.map Prod.fst).Nodup := by
        rw [Members.keys_eq_of_mapM readEntries]
        exact sorted.1.nodup_keys
      rw [get?, ofList, Members.get?_ofList different, Members.get?_of_mapM readEntries]
      rfl
  | _ => cases read

/-- What is read of metadata that are a mapping. -/
theorem Metadata.of_ofDocument?
    {members : Members}
    {metadata : Metadata}
    (sorted : (mapping members).Sorted)
    (read : Metadata.ofDocument? (.mapping members) = some metadata) :
    ((Members.get? members "name").bind asText?).getD "" = metadata.name ∧
      ∀ key, (((Members.get? members "annotations").bind (Document.get? · key)).bind asText?) =
        metadata.annotations.get? key := by
  rw [Sorted] at sorted
  simp only [ofDocument?, asRecord?, Option.bind_eq_bind, Option.bind_some,
    Option.bind_eq_some_iff, Option.some.injEq] at read
  obtain ⟨name, readName, space, -, labels, -, annotations, readAnnotations, -, -, -, -, -, -, -,
    -, -, -, rfl⟩ := read
  refine ⟨?_, fun key => ?_⟩
  · rw [Members.fieldOr?] at readName
    split at readName
    · next found => simp [found, readName]
    · next absent =>
        cases readName
        simp [absent]
  · rw [Members.fieldOr?] at readAnnotations
    split at readAnnotations
    · next found =>
        have inner := TextMap.get?_of_ofDocument? (Sorted.of_get? sorted.2 found)
          readAnnotations key
        rw [found, Option.bind_some, inner]
    · next absent =>
        cases readAnnotations
        rw [absent]
        rfl

namespace Bundle

variable {document : Document} {bundle : Bundle}

/-- A bundle is read of a mapping or of a list. -/
theorem exists_metadata_of_ofDocument?
    {members : Members}
    (read : Bundle.ofDocument? (.mapping members) = some bundle) :
    Members.fieldOr? members "metadata" (.named "" "") Metadata.ofDocument? =
      some bundle.metadata := by
  simp only [ofDocument?, asRecord?, Option.bind_eq_bind, Option.bind_some,
    Option.bind_eq_some_iff, Option.some.injEq] at read
  obtain ⟨-, -, -, -, metadata, readMetadata, -, -, -, -, rfl⟩ := read
  exact readMetadata

/-- A document that is a mapping and whose metadata, if any, are one too. -/
structure IsPlain (document : Document) : Prop where
  isMapping : document.isMapping = true
  isMetadata : ∀ metadata, document.get? "metadata" = some metadata → metadata.isMapping = true

/-- A plain document has the name and the annotations of the bundle that is read of it. -/
theorem name_and_annotations_of_ofDocument?
    (sorted : document.Sorted)
    (plain : IsPlain document)
    (read : Bundle.ofDocument? document = some bundle) :
    manifestName document = bundle.name ∧
      ∀ key, annotation? document key = bundle.metadata.annotations.get? key := by
  obtain ⟨members, rfl⟩ := isMapping_iff.1 plain.isMapping
  have readMetadata := exists_metadata_of_ofDocument? read
  have shape := plain.isMetadata
  rw [Members.fieldOr?] at readMetadata
  simp only [manifestName, annotation?, Document.get?] at shape ⊢
  cases found : Members.get? members "metadata" with
  | none =>
      rw [found] at readMetadata
      have isNamed : .named "" "" = bundle.metadata := Option.some.inj readMetadata
      rw [name, ← isNamed]
      exact ⟨rfl, fun _ => rfl⟩
  | some metadata =>
      rw [found] at readMetadata
      obtain ⟨fields, rfl⟩ := isMapping_iff.1 (shape metadata found)
      rw [Sorted] at sorted
      exact Metadata.of_ofDocument? (Sorted.of_get? sorted.2 found) readMetadata

end Bundle

end BundleTrust
