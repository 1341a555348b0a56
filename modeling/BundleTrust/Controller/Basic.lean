import BundleTrust.Bundle.Basic
import BundleTrust.Bundle.Lookup
import BundleTrust.Duration

/-!
# Bundle controllers

A controller records which bundle of its cluster is in use, where bundles come from and how
often to look for newer ones.
-/

namespace BundleTrust

/-- The state of a controller. -/
inductive ControllerState where
  /-- Nothing was derived yet. -/
  | unset
  /-- A bundle is in use and there is no newer one. -/
  | active
  /-- There is a newer bundle than the one in use. -/
  | upgradeAvailable
  /-- The registry or the cluster could not be reached. -/
  | disconnected
  /-- The controller is not the one that is managed. -/
  | ignored
  /-- Anything that another writer stored. -/
  | unknown
  deriving DecidableEq, Repr

/-- Where bundles come from. -/
structure BundleSource where
  /-- The registry. -/
  registry : String
  /-- The repository in the registry. -/
  repository : String
  deriving DecidableEq, Repr

/-- What is wanted of a controller. -/
structure ControllerSpec where
  /-- The name of the bundle in use; empty if none was chosen. -/
  activeBundle : String
  /-- Where bundles come from. -/
  source : BundleSource
  /-- The time between checks that succeed. -/
  upgradeCheckInterval : Option Duration
  /-- The time after a check that failed. -/
  upgradeCheckShortInterval : Option Duration
  /-- How much is logged. -/
  logLevel : Option Int32
  deriving DecidableEq, Repr

/-- What was derived for a controller. -/
structure ControllerStatus where
  /-- Its state. -/
  state : ControllerState
  /-- What there is to say about the state. -/
  detail : String
  deriving DecidableEq, Repr

/-- A controller. -/
structure Controller where
  /-- The version of the form of the document. -/
  apiVersion : String
  /-- The kind of the document. -/
  kind : String
  /-- What the controller says about itself. -/
  metadata : Metadata
  /-- What is wanted of it. -/
  spec : ControllerSpec
  /-- What was derived for it. -/
  status : ControllerStatus
  deriving DecidableEq, Repr

namespace ControllerState

/-- The name of a state. -/
def name : ControllerState → String
  | .unset => ""
  | .active => "active"
  | .upgradeAvailable => "upgrade available"
  | .disconnected => "disconnected"
  | .ignored => "ignored"
  | .unknown => "unknown"

/-- The states that have a meaning. -/
def known : List ControllerState :=
  [.unset, .active, .upgradeAvailable, .disconnected, .ignored]

/-- The state with a name. -/
def ofName (name : String) : ControllerState :=
  (known.find? fun state => state.name = name).getD .unknown

/-- Read a state. -/
def ofDocument? (document : Document) : Option ControllerState :=
  document.asChoice?.map ofName

end ControllerState

namespace BundleSource

/-- Where bundles come from by default. -/
def standard : BundleSource :=
  ⟨"public.ecr.aws/eks-anywhere", "eks-anywhere-packages-bundles"⟩

/-- The registry and the repository, to which a tag is added. -/
def baseReference (source : BundleSource) : String :=
  joinLocation source.registry source.repository

/-- What the fields are read as, in their order. -/
def fields : List (String × Yaml.Shape) := [("registry", .text), ("repository", .text)]

/-- A source as a document. -/
def toDocument (source : BundleSource) : Document :=
  .mapping [("registry", .text source.registry), ("repository", .text source.repository)]

/-- Read a source. -/
def ofDocument? (document : Document) : Option BundleSource := do
  let members ← document.asRecord? (fields.map Prod.fst)
  let registry ← members.field? "registry" Document.asText?
  let repository ← members.field? "repository" Document.asText?
  some ⟨registry, repository⟩

end BundleSource

/-- Read an interval: null or a blank text for none, else the text of a duration. -/
def intervalOfDocument? (document : Document) : Option (Option Duration) :=
  (document.asOptional? Document.asText?).bind fun text =>
    match text.map Text.trim with
    | none => some none
    | some text => if text.isEmpty then some none else (Duration.read? text).map some

namespace ControllerSpec

/-- The spec of a new controller. -/
def standard : ControllerSpec := ⟨"", .standard, none, none, none⟩

/-- The time between checks that succeed, where none or no time was set. -/
def standardInterval : Duration := .ofSeconds (24 * 60 * 60) (by decide)

/-- The time after a check that failed, where none or no time was set. -/
def standardShortInterval : Duration := .ofSeconds (60 * 60) (by decide)

/-- An interval that was set to some time, else a standard one. -/
def effective (interval : Option Duration) (standard : Duration) : Duration :=
  match interval with
  | some interval => if interval.isZero then standard else interval
  | none => standard

/-- The time between checks that succeed. -/
def interval (spec : ControllerSpec) : Duration :=
  effective spec.upgradeCheckInterval standardInterval

/-- The time after a check that failed. -/
def shortInterval (spec : ControllerSpec) : Duration :=
  effective spec.upgradeCheckShortInterval standardShortInterval

/-- What the fields are read as, in their order. -/
def fields : List (String × Yaml.Shape) :=
  [("activeBundle", .text), ("source", .record BundleSource.fields),
    ("upgradeCheckInterval", .optional .text),
    ("upgradeCheckShortInterval", .optional .text),
    ("logLevel", .optional (.integer Int32.minValue.toInt Int32.maxValue.toInt))]

/-- A spec as a document. -/
def toDocument (spec : ControllerSpec) : Document :=
  .mapping
    ([("activeBundle", .text spec.activeBundle), ("source", spec.source.toDocument)] ++
      Members.ofOption "upgradeCheckInterval" (fun interval => .text interval.render)
        spec.upgradeCheckInterval ++
      Members.ofOption "upgradeCheckShortInterval" (fun interval => .text interval.render)
        spec.upgradeCheckShortInterval ++
      Members.ofOption "logLevel" (fun level => .integer (.ofInt32 level)) spec.logLevel)

/-- Read a spec. -/
def ofDocument? (document : Document) : Option ControllerSpec := do
  let members ← document.asRecord? (fields.map Prod.fst)
  let activeBundle ← members.fieldOr? "activeBundle" "" Document.asText?
  let source ← members.fieldOr? "source" .standard BundleSource.ofDocument?
  let interval ← members.fieldOr? "upgradeCheckInterval" none intervalOfDocument?
  let shortInterval ← members.fieldOr? "upgradeCheckShortInterval" none intervalOfDocument?
  let logLevel ← members.fieldOr? "logLevel" none (Document.asOptional? Document.asInt32?)
  some ⟨activeBundle, source, interval, shortInterval, logLevel⟩

end ControllerSpec

namespace ControllerStatus

/-- The status of a new controller. -/
def unset : ControllerStatus := ⟨.unset, ""⟩

/-- What the fields are read as, in their order. -/
def fields : List (String × Yaml.Shape) := [("state", .choice), ("detail", .text)]

/-- A status as a document. -/
def toDocument (status : ControllerStatus) : Document :=
  .mapping (("state", .text status.state.name) :: Members.ofText "detail" status.detail)

/-- Read a status. -/
def ofDocument? (document : Document) : Option ControllerStatus := do
  let members ← document.asRecord? (fields.map Prod.fst)
  let state ← members.fieldOr? "state" .unset ControllerState.ofDocument?
  let detail ← members.fieldOr? "detail" "" Document.asText?
  some ⟨state, detail⟩

end ControllerStatus

namespace Controller

/-- A new controller. -/
def named (space name : String) : Controller :=
  ⟨apiVersionText, ResourceKind.controller.name, .named space name, .standard, .unset⟩

/-- The name of a controller. -/
def name (controller : Controller) : String := controller.metadata.name

/-- The namespace of a controller. -/
def space (controller : Controller) : String := controller.metadata.space

/-- The controller with another bundle in use. -/
def withActiveBundle (controller : Controller) (bundle : String) : Controller :=
  { controller with spec := { controller.spec with activeBundle := bundle } }

/-- What the fields are read as, in their order. -/
def fields : List (String × Yaml.Shape) :=
  [("apiVersion", .text), ("kind", .text), ("metadata", .record Metadata.fields),
    ("spec", .record ControllerSpec.fields), ("status", .record ControllerStatus.fields)]

/-- A controller as a document, with the fields in their order. -/
def toDocument (controller : Controller) : Document :=
  .mapping
    [("apiVersion", .text controller.apiVersion), ("kind", .text controller.kind),
      ("metadata", controller.metadata.toDocument), ("spec", controller.spec.toDocument),
      ("status", controller.status.toDocument)]

/-- A controller as a manifest. -/
def toManifest (controller : Controller) : Document :=
  controller.toDocument.sortKeys

/-- Read a controller. -/
def ofDocument? (document : Document) : Option Controller := do
  let members ← document.asRecord? (fields.map Prod.fst)
  let apiVersion ← members.fieldOr? "apiVersion" apiVersionText Document.asText?
  let kind ← members.fieldOr? "kind" ResourceKind.controller.name Document.asText?
  let metadata ← members.fieldOr? "metadata" (.named "" "") Metadata.ofDocument?
  let spec ← members.fieldOr? "spec" .standard ControllerSpec.ofDocument?
  let status ← members.fieldOr? "status" .unset ControllerStatus.ofDocument?
  some ⟨apiVersion, kind, metadata, spec, status⟩

/-- Read a controller from YAML. -/
def ofYaml? (text : String) : Option Controller :=
  (Yaml.readAs? (.record fields) text).bind ofDocument?

/-- The YAML text of a controller, with the fields in their order. -/
def toYaml (controller : Controller) : String :=
  Yaml.write controller.toDocument

end Controller

end BundleTrust
