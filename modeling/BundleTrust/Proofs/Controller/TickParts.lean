import BundleTrust.Controller.Tick
import BundleTrust.Proofs.Manager.Execution
import BundleTrust.Proofs.Store.Writeback

/-!
# The parts of a tick

A tick is executed in surroundings: a store, clusters that may or may not tell the version of
their server, and registries that may or may not hold an artifact.  For each part of a tick it
is said what comes of it where the controller is held as it is stored.
-/

namespace BundleTrust

namespace Bundle

/-- A bundle with its namespace. -/
def inSpace (bundle : Bundle) (space : String) : Bundle :=
  { bundle with metadata := { bundle.metadata with space := space } }

/-- A bundle with its namespace and its name. -/
def kept (bundle : Bundle) (space name : String) : Bundle :=
  { bundle with metadata := { bundle.metadata with space := space, name := name } }

end Bundle

namespace Controller

/-- Where the bundle in use is kept. -/
def activeAddress (controller : Controller) : Address :=
  ⟨controller.space, controller.spec.activeBundle⟩

/-- The bundle in use as it is to be stored, if it was missing. -/
def restored (controller : Controller) (missing : Option Bundle) : List Bundle :=
  missing.toList.map fun bundle => bundle.kept controller.space controller.spec.activeBundle

/-- Whether a bundle is in use that is not in the store. -/
def Misses (controller : Controller) (store : Store) : Prop :=
  controller.spec.activeBundle ≠ "" ∧ store.bundle? controller.activeAddress = none

instance (controller : Controller) (store : Store) : Decidable (controller.Misses store) :=
  inferInstanceAs (Decidable (_ ∧ _))

end Controller

/-- What tells versions of servers and holds artifacts.  What it does may depend on a world,
which changes as it is asked. -/
structure Surroundings (World : Type) where
  /-- The version of the server of a cluster. -/
  serverVersion : String → World → Except BundleError ServerVersion × World
  /-- The octets of the artifact with a reference. -/
  pull : String → World → Except BundleError (List UInt8) × World

namespace Surroundings

variable {World : Type} (surroundings : Surroundings World)

/-- The reply of a store and of surroundings to a request, and both afterwards. -/
def respond : (request : ManagerRequest) → Store × World → request.Reply × Store × World
  | .store request, (store, world) =>
      ((store.answer request).1, (store.answer request).2, world)
  | .serverVersion cluster, (store, world) =>
      ((surroundings.serverVersion cluster world).1, store,
        (surroundings.serverVersion cluster world).2)
  | .pull reference, (store, world) =>
      ((surroundings.pull reference world).1, store, (surroundings.pull reference world).2)

/-- The bundle with a reference. -/
def pullBundle (reference : String) (world : World) : Except BundleError Bundle × World :=
  ((surroundings.pull reference world).1.bind (bundleOfArtifact reference),
    (surroundings.pull reference world).2)

/-- The newest bundle for a controller: the one for the version of its server. -/
def findLatest (controller : Controller) (world : World) : Except BundleError Bundle × World :=
  match surroundings.serverVersion controller.name world with
  | (.error failure, world) => (.error failure, world)
  | (.ok server, world) =>
      surroundings.pullBundle (latestReference controller.spec.source.baseReference server) world

/-- The bundle in use of an active controller, if it has to be restored in a store. -/
def findMissing (controller : Controller) (store : Store) (world : World) :
    Except BundleError (Option Bundle) × World :=
  if controller.status.state = .active ∧ controller.Misses store then
    ((surroundings.pullBundle controller.activeReference world).1.map some,
      (surroundings.pullBundle controller.activeReference world).2)
  else (.ok none, world)

/-- What is missing depends on nothing but the bundles of a store. -/
theorem findMissing_congr
    {left right : Store}
    (same : left.bundles = right.bundles)
    (controller : Controller)
    (world : World) :
    surroundings.findMissing controller left world =
      surroundings.findMissing controller right world := by
  have alike : controller.Misses left ↔ controller.Misses right := by
    rw [Controller.Misses, Controller.Misses, Store.bundle?_congr same]
  simp only [findMissing, alike]

/-- Execute a part of a tick of a controller. -/
abbrev execute {Answer : Type} (part : Tick Answer) (controller : Controller) (store : Store)
    (world : World) : (Except BundleError Answer × Controller) × Store × World :=
  Reconciliation.execute surroundings.respond part controller (store, world)

/-- Whatever is executed, the store of a configuration stays one. -/
theorem isFor_execute {Answer : Type}
    {configuration : Configuration}
    {store : Store}
    (isFor : store.IsFor configuration)
    (part : Tick Answer)
    (controller : Controller)
    (world : World) :
    (surroundings.execute part controller store world).2.1.IsFor configuration := by
  refine Script.run_preserves (fun state : Store × World => state.1.IsFor configuration) ?_ _ isFor
  intro request state holds
  cases request with
  | store request => exact holds.answer request
  | serverVersion cluster => exact holds
  | pull reference => exact holds

end Surroundings

/-- The status of a controller whose newest bundle could not be found. -/
def ControllerStatus.disconnected (status : ControllerStatus) (failure : BundleError) :
    ControllerStatus :=
  if status.state = .active ∨ status.state = .unset then ⟨.disconnected, failure.message⟩
  else status

namespace Store

/-- A store with a bundle, which is added unless one is stored at its address. -/
def register (store : Store) (bundle : Bundle) : Store :=
  (store.createBundle bundle).2

/-- A store with the bundle that a controller has in use, if that was missing. -/
def restore (store : Store) (controller : Controller) (missing : Option Bundle) : Store :=
  missing.elim store fun bundle =>
    store.register (bundle.kept controller.space controller.spec.activeBundle)

/-- Take a bundle into use if none is. -/
def adopt (store : Store) (controller : Controller) (latest : String) : Controller × Store :=
  if controller.spec.activeBundle = "" then
    store.putController (controller.withActiveBundle latest)
  else (controller, store)

@[simp] theorem controllers_register (store : Store) (bundle : Bundle) :
    (store.register bundle).controllers = store.controllers :=
  store.controllers_createBundle bundle

@[simp] theorem controllers_restore
    (store : Store)
    (controller : Controller)
    (missing : Option Bundle) :
    (store.restore controller missing).controllers = store.controllers := by
  cases missing with
  | none => rfl
  | some bundle => exact store.controllers_register _

/-- A store gains the bundle that was missing. -/
theorem gains_restore (store : Store) (controller : Controller) (missing : Option Bundle) :
    store.Gains (controller.restored missing) (store.restore controller missing) := by
  cases missing with
  | none => exact .of_bundles rfl
  | some bundle => exact store.gains_createBundle _

@[simp] theorem bundles_adopt (store : Store) (controller : Controller) (latest : String) :
    (store.adopt controller latest).2.bundles = store.bundles := by
  unfold adopt
  split <;> rfl

end Store

/-! ## A controller that is held as it is stored -/

/-- A managed controller is held as it is stored, in the store of the configuration of its
manager. -/
structure HeldAsStored (configuration : Configuration) (controller : Controller)
    (store : Store) : Prop where
  /-- The store is that of the configuration. -/
  isFor : store.IsFor configuration
  /-- The controller is the one that is managed. -/
  isManaged : configuration.isManaged controller
  /-- It is stored. -/
  stored : store.controller? controller.address = some controller

namespace HeldAsStored

variable {configuration : Configuration} {controller : Controller} {store after : Store}

theorem name_eq (held : HeldAsStored configuration controller store) :
    controller.name = configuration.controllerName := by
  have managed := held.isManaged
  simp only [Configuration.isManaged, Bool.and_eq_true, beq_iff_eq] at managed
  exact managed.1

theorem space_eq (held : HeldAsStored configuration controller store) :
    controller.space = configuration.space := by
  have managed := held.isManaged
  simp only [Configuration.isManaged, Bool.and_eq_true, beq_iff_eq] at managed
  exact managed.2

/-- The controller is the one that names the active bundle. -/
theorem reservedController_eq (held : HeldAsStored configuration controller store) :
    store.reservedController = .ok controller := by
  refine Store.reservedController_eq_ok ?_
  rw [held.isFor.space, held.isFor.controllerName, ← held.space_eq, ← held.name_eq]
  exact held.stored

/-- The active bundle of the store is the one that the controller has in use. -/
theorem activeBundle_eq (held : HeldAsStored configuration controller store) :
    store.activeBundle =
      match store.bundle? controller.activeAddress with
      | some bundle => .ok bundle
      | none => .error (.notFound .bundle controller.space controller.spec.activeBundle) := by
  rw [Store.activeBundle, held.reservedController_eq, held.isFor.space, ← held.space_eq]
  rfl

/-- It is still held as it is stored where no controller changed. -/
theorem of_controllers
    (held : HeldAsStored configuration controller store)
    (isFor : after.IsFor configuration)
    (same : after.controllers = store.controllers) :
    HeldAsStored configuration controller after :=
  ⟨isFor, held.isManaged, (Store.controller?_congr same _).trans held.stored⟩

/-- After it was brought up to date it is held as it is stored. -/
theorem of_updates
    {spec : ControllerSpec}
    {status : ControllerStatus}
    {written : Controller}
    (held : HeldAsStored configuration controller store)
    (isFor : after.IsFor configuration)
    (updates : store.Updates controller spec status after written) :
    HeldAsStored configuration written after := by
  refine ⟨isFor, ?_, by rw [updates.address_eq, updates.stored]⟩
  obtain ⟨version, rfl⟩ := updates.document
  exact held.isManaged

end HeldAsStored

/-! ## What comes of the parts -/

namespace Tick

open Surroundings Reconciliation

variable {World : Type} (surroundings : Surroundings World) (world : World)
  {configuration : Configuration} {controller : Controller} {store : Store}

theorem execute_settle
    (stored : store.controller? controller.address = some controller)
    (state : ControllerState)
    (detail : String) :
    surroundings.execute (settle controller.status state detail) controller store world =
      ((.ok (), (store.updateStatus controller ⟨state, detail⟩).1),
        (store.updateStatus controller ⟨state, detail⟩).2, world) := by
  simp only [settle, execute_bind, execute_modify]
  unfold Store.updateStatus
  split
  · next same =>
      simp only [Controller.withStatus, ← same]
      rfl
  · simp only [saveStatus, execute_bind, execute_get, execute_demand, respond, Store.answer,
      Controller.withStatus, store.saveControllerStatus_of_stored stored]
    rfl

theorem execute_disconnect
    (stored : store.controller? controller.address = some controller)
    (failure : BundleError) :
    surroundings.execute (disconnect failure) controller store world =
      ((.ok (), (store.updateStatus controller (controller.status.disconnected failure)).1),
        (store.updateStatus controller (controller.status.disconnected failure)).2, world) := by
  simp only [disconnect, execute_bind, execute_get]
  unfold ControllerStatus.disconnected
  split
  · exact execute_settle surroundings world stored _ _
  · simp [Store.updateStatus]

theorem execute_register
    {latest : Bundle}
    (space : latest.space = store.space) :
    surroundings.execute (register latest) controller store world =
      ((.ok (), controller), store.register latest, world) := by
  have known := store.any_listBundles latest.name
  rw [← space] at known
  change _ = (store.bundle? latest.address).isSome at known
  simp only [register, execute_bind, execute_demand, respond, Store.answer,
    known, Store.register]
  cases found : store.bundle? latest.address with
  | some stored => simp [Store.createBundle, found]
  | none => simp [respond, Store.answer, Store.createBundle_of_absent found, Except.map]

theorem execute_restoreActive
    (held : HeldAsStored configuration controller store)
    (active : controller.status.state = .active) :
    surroundings.execute (restoreActive configuration.space) controller store world =
      match surroundings.findMissing controller store world with
      | (.ok missing, world) => ((.ok (), controller), store.restore controller missing, world)
      | (.error failure, world) => ((.error failure, controller), store, world) := by
  have reply := held.activeBundle_eq
  simp only [restoreActive, execute_bind, execute_get, findMissing, active, true_and,
    Controller.Misses]
  by_cases unused : controller.spec.activeBundle = ""
  · simp [unused, Store.restore]
  cases found : store.bundle? controller.activeAddress with
  | some bundle =>
      rw [found] at reply
      simp [unused, execute_bind, respond, Store.answer, reply, Store.restore]
  | none =>
      -- The bundle is missing, and whether it can be restored depends on the registry.
      rw [found] at reply
      simp only [String.isEmpty_iff, unused, execute_bind, execute_ask, respond, Store.answer,
        reply, execute_pullBundle, Surroundings.pullBundle, ↓reduceIte, ne_eq, not_false_eq_true,
        and_self]
      cases pulled : (surroundings.pull controller.activeReference world).1.bind
          (bundleOfArtifact controller.activeReference) with
      | error failure => rfl
      | ok bundle =>
          have absent : store.bundle? (bundle.kept controller.space
            controller.spec.activeBundle).address = none := found
          have created := Store.createBundle_of_absent absent
          rw [Bundle.kept] at created
          simp [respond, Store.answer, ← held.space_eq, created, Store.restore, Store.register,
            Bundle.kept, Except.map]

theorem execute_adopt
    (stored : store.controller? controller.address = some controller)
    (latest : String) :
    surroundings.execute (adopt latest) controller store world =
      ((.ok (), (store.adopt controller latest).1), (store.adopt controller latest).2, world) := by
  simp only [adopt, execute_bind, execute_get]
  by_cases unused : controller.spec.activeBundle = ""
  · have saved := store.saveController_of_stored stored
      { controller.spec with activeBundle := latest }
    simp [unused, Store.adopt, execute_bind, respond, Store.answer, Controller.withActiveBundle,
      saved]
    rfl
  · simp [unused, Store.adopt]

end Tick

end BundleTrust
