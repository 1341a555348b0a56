import BundleTrust.Controller.Basic
import BundleTrust.Proofs.Bundle.RoundTrip
import BundleTrust.Proofs.Duration.RoundTrip

/-!
# Bundles and controllers read back

A controller is read back from its manifest as it was written (`Controller.ofDocument?_toManifest`),
as a bundle is.  So what is read of a document once is written as a manifest that does not change
any more (`resources_read_back`).
-/

namespace BundleTrust

open Document

/-! ## Numbers and intervals -/

/-- A number is read back. -/
theorem readsBack_int32 :
    ReadsBack (fun value : Int32 => .integer (.ofInt32 value)) asInt32? := by
  intro value
  have inRange : Int32.minValue.toInt ≤ value.toInt ∧ value.toInt ≤ Int32.maxValue.toInt :=
    ⟨value.minValue_le_toInt, value.toInt_le⟩
  rw [sortKeys, asInt32?, asInteger?, Option.bind_some, WideInteger.ofInt32, if_pos inRange,
    Int32.ofInt_toInt]
  all_goals simp

/-- The text of a duration is read as an interval of some time. -/
theorem intervalOfDocument?_render (duration : Duration) :
    intervalOfDocument? (.text duration.render) = some (some duration) := by
  have filled : duration.render ≠ "" := by
    obtain ⟨first, rest, isRendered, -, -⟩ := duration.exists_cons_render
    intro isEmpty
    rw [isEmpty] at isRendered
    cases isRendered
  simp [intervalOfDocument?, asOptional?, asText?, duration.trim_render, duration.read?_render,
    filled]

namespace Members

variable {members : Members} {record : Document} {name : String}

/-- An interval that may be missing is read. -/
theorem fieldOr?_of_interval
    {interval : Option Duration}
    (found : ∀ key, get? members key = (record.get? key).map sortKeys)
    (written : record.get? name = interval.map fun interval => .text interval.render) :
    fieldOr? members name none intervalOfDocument? = some interval := by
  rw [fieldOr?, found, written]
  cases interval with
  | none => rfl
  | some interval =>
      simp only [Option.map_some, sortKeys]
      exact intervalOfDocument?_render interval

end Members

/-! ## Controllers -/

theorem BundleSource.readsBack : ReadsBack toDocument ofDocument? := by
  intro source
  obtain ⟨members, isRecord, found⟩ := exists_sortedRecord source.toDocument
    (fields.map Prod.fst) rfl (.refl _) (by decide)
  have registry : Members.field? members "registry" asText? = some source.registry :=
    Members.field?_of_written found rfl (ReadsBack.text _)
  have repository : Members.field? members "repository" asText? = some source.repository :=
    Members.field?_of_written found rfl (ReadsBack.text _)
  simp [isRecord, ofDocument?, asRecord?, registry, repository]

theorem ControllerSpec.readsBack : ReadsBack toDocument ofDocument? := by
  intro spec
  obtain ⟨members, isRecord, found⟩ := exists_sortedRecord spec.toDocument
    (fields.map Prod.fst) rfl (by
      rw [List.map_append, List.map_append, List.map_append]
      exact (((List.Sublist.refl ["activeBundle", "source"]).append
        (Members.keys_ofOption_sublist "upgradeCheckInterval" _ _)).append
        (Members.keys_ofOption_sublist "upgradeCheckShortInterval" _ _)).append
        (Members.keys_ofOption_sublist "logLevel" _ _)) (by decide)
  have activeBundle : Members.fieldOr? members "activeBundle" "" asText? =
      some spec.activeBundle :=
    Members.fieldOr?_of_written found _ rfl (ReadsBack.text _)
  have source : Members.fieldOr? members "source" .standard BundleSource.ofDocument? =
      some spec.source :=
    Members.fieldOr?_of_written found _ rfl (BundleSource.readsBack _)
  have interval : Members.fieldOr? members "upgradeCheckInterval" none intervalOfDocument? =
      some spec.upgradeCheckInterval :=
    Members.fieldOr?_of_interval found (by simp [toDocument, Document.get?])
  have shortInterval :
      Members.fieldOr? members "upgradeCheckShortInterval" none intervalOfDocument? =
        some spec.upgradeCheckShortInterval :=
    Members.fieldOr?_of_interval found (by simp [toDocument, Document.get?])
  have logLevel : Members.fieldOr? members "logLevel" none (asOptional? asInt32?) =
      some spec.logLevel :=
    Members.fieldOr?_of_ofOption found _ (by simp [toDocument, Document.get?])
      (fun present _ => readsBack_int32 present) (by simp [sortKeys])
  simp [isRecord, ofDocument?, asRecord?, activeBundle, source, interval, shortInterval, logLevel]

namespace ControllerState

theorem ofName_name (state : ControllerState) : ofName state.name = state := by
  cases state <;> decide

end ControllerState

theorem ControllerStatus.readsBack : ReadsBack toDocument ofDocument? := by
  intro status
  obtain ⟨members, isRecord, found⟩ := exists_sortedRecord status.toDocument
    (fields.map Prod.fst) rfl (.cons_cons "state" (Members.keys_omitIf_sublist _ "detail" _))
    (by decide)
  have state : Members.fieldOr? members "state" .unset ControllerState.ofDocument? =
      some status.state :=
    Members.fieldOr?_of_written found _ rfl
      (by simp [sortKeys, ControllerState.ofDocument?, asChoice?, ControllerState.ofName_name])
  have detail : Members.fieldOr? members "detail" "" asText? = some status.detail :=
    Members.fieldOr?_of_ofText found (by simp [toDocument, Document.get?, Members.ofText])
  simp [isRecord, ofDocument?, asRecord?, state, detail]

namespace Controller

/-- A controller is read back from its manifest. -/
theorem ofDocument?_toManifest
    {controller : Controller}
    (sortedManagers : controller.metadata.HasSortedManagers) :
    ofDocument? controller.toManifest = some controller := by
  obtain ⟨members, isRecord, found⟩ := exists_sortedRecord controller.toDocument
    (fields.map Prod.fst) rfl (.refl _) (by decide)
  have apiVersion : Members.fieldOr? members "apiVersion" apiVersionText asText? =
      some controller.apiVersion :=
    Members.fieldOr?_of_written found _ rfl (ReadsBack.text _)
  have kind : Members.fieldOr? members "kind" ResourceKind.controller.name asText? =
      some controller.kind :=
    Members.fieldOr?_of_written found _ rfl (ReadsBack.text _)
  have metadata : Members.fieldOr? members "metadata" (.named "" "") Metadata.ofDocument? =
      some controller.metadata :=
    Members.fieldOr?_of_written found _ rfl
      (Metadata.ofDocument?_sortKeys_toDocument sortedManagers)
  have spec : Members.fieldOr? members "spec" .standard ControllerSpec.ofDocument? =
      some controller.spec :=
    Members.fieldOr?_of_written found _ rfl (ControllerSpec.readsBack _)
  have status : Members.fieldOr? members "status" .unset ControllerStatus.ofDocument? =
      some controller.status :=
    Members.fieldOr?_of_written found _ rfl (ControllerStatus.readsBack _)
  simp [toManifest, isRecord, ofDocument?, asRecord?, apiVersion, kind, metadata, spec, status]

/-- A controller that is read of a sorted document has sorted managers. -/
theorem hasSortedManagers_of_ofDocument?
    {document : Document}
    {controller : Controller}
    (sorted : document.Sorted)
    (read : ofDocument? document = some controller) :
    controller.metadata.HasSortedManagers := by
  simp only [ofDocument?, Option.bind_eq_bind, Option.bind_eq_some_iff, Option.some.injEq] at read
  obtain ⟨members, isRecord, -, -, -, -, metadata, readMetadata, -, -, -, -, rfl⟩ := read
  exact Metadata.hasSortedManagers_of_fieldOr? (sorted.of_asRecord? isRecord) readMetadata

end Controller

/-! ## Bundles and controllers -/

/-- A bundle and a controller are read back from their manifests exactly if what they say about the
managers of fields has its keys in order, as it has in every document.  So what is read of a
document is read of its own manifest again, which stays the same from then on. -/
theorem resources_read_back :
    (∀ bundle : Bundle,
      Bundle.ofDocument? bundle.toManifest = some bundle ↔ bundle.metadata.HasSortedManagers) ∧
    (∀ controller : Controller,
      Controller.ofDocument? controller.toManifest = some controller ↔
        controller.metadata.HasSortedManagers) ∧
    ∀ document : Document, document.Sorted →
      (∀ bundle, Bundle.ofDocument? document = some bundle →
        Bundle.ofDocument? bundle.toManifest = some bundle) ∧
      ∀ controller, Controller.ofDocument? document = some controller →
        Controller.ofDocument? controller.toManifest = some controller := by
  refine ⟨fun bundle => ⟨?_, Bundle.ofDocument?_toManifest⟩,
    fun controller => ⟨?_, Controller.ofDocument?_toManifest⟩, fun document sorted => ⟨?_, ?_⟩⟩
  · exact Bundle.hasSortedManagers_of_ofDocument? bundle.sorted_toManifest
  · exact Controller.hasSortedManagers_of_ofDocument? (sorted_sortKeys _)
  · intro bundle read
    exact Bundle.ofDocument?_toManifest (Bundle.hasSortedManagers_of_ofDocument? sorted read)
  · intro controller read
    exact Controller.ofDocument?_toManifest
      (Controller.hasSortedManagers_of_ofDocument? sorted read)

namespace ResourceExample

/-- A bundle with all that may be left out of a manifest, in a state that another writer stored. -/
def bundle : Bundle :=
  ⟨apiVersionText, ResourceKind.bundle.name,
    ⟨"v1-21-1001", "eksa-packages", .ofList [("tier", "b"), ("", "a")], .ofList [("note", "")],
      some "2022-01-01", some (-1), some [.mapping [("by", .null), ("of", .list [.text "x"])]],
      some "", some "7"⟩,
    [⟨"", ⟨"", "hello", [⟨"1.0", "sha256:0", "H4sI", [⟨"hello/image", "sha256:1"⟩]⟩]⟩⟩],
    some .unknown⟩

/-- A controller as a list of its fields, with a status that says nothing. -/
def document : Document :=
  .list [.text apiVersionText, .text ResourceKind.controller.name,
    .mapping [("managedFields", .list [.integer (.ofInt64 3)])],
    .mapping [("logLevel", .integer (.ofInt32 (-4))), ("upgradeCheckInterval", .text " 90m 1ns ")],
    .mapping []]

/-- The controller that the document stands for: an hour and a half has another text there. -/
def controller : Controller :=
  ⟨apiVersionText, ResourceKind.controller.name,
    ⟨"", "", .empty, .empty, none, none, some [.integer (.ofInt64 3)], none, none⟩,
    ⟨"", .standard, some ⟨5400, 1, by decide, by decide⟩, none, some (-4)⟩, .unset⟩

/-- The bundle is read back, and so is the controller, whose manifest is not the document. -/
theorem bundle_and_document_read_back :
    Bundle.ofDocument? bundle.toManifest = some bundle ∧
      Controller.ofDocument? document = some controller ∧ controller.toManifest ≠ document ∧
      Controller.ofDocument? controller.toManifest = some controller := by
  have read : Controller.ofDocument? document = some controller := by decide +kernel
  refine ⟨(resources_read_back.1 bundle).2 ?_, read, by decide +kernel,
    (resources_read_back.2.2 document (by decide +kernel)).2 controller read⟩
  rintro managers ⟨⟩
  exact sortedItems_iff.2 (by decide +kernel)

end ResourceExample

end BundleTrust
