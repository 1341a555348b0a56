import BundleTrust.Configuration
import BundleTrust.Controller.Basic
import BundleTrust.Store.Shelf
import BundleTrust.Text.Numeral

/-!
# The store

Bundles and controllers by their addresses.  Every write gives the document that it stores a
version of its own.  A write that carries a version succeeds only if that is the stored
one; a write without a version is unconditional.
-/

namespace BundleTrust

/-- Where a bundle is kept. -/
def Bundle.address (bundle : Bundle) : Address := ⟨bundle.space, bundle.name⟩

/-- Where a controller is kept. -/
def Controller.address (controller : Controller) : Address :=
  ⟨controller.space, controller.name⟩

/-- The bundle with another version. -/
def Bundle.withVersion (bundle : Bundle) (version : String) : Bundle :=
  { bundle with metadata := { bundle.metadata with resourceVersion := some version } }

@[simp] theorem Bundle.address_withVersion (bundle : Bundle) (version : String) :
    (bundle.withVersion version).address = bundle.address := rfl

@[simp] theorem Bundle.resourceVersion_withVersion (bundle : Bundle) (version : String) :
    (bundle.withVersion version).metadata.resourceVersion = some version := rfl

/-- The controller with another version. -/
def Controller.withVersion (controller : Controller) (version : String) : Controller :=
  { controller with metadata := { controller.metadata with resourceVersion := some version } }

@[simp] theorem Controller.address_withVersion (controller : Controller) (version : String) :
    (controller.withVersion version).address = controller.address := rfl

@[simp] theorem Controller.resourceVersion_withVersion
    (controller : Controller) (version : String) :
    (controller.withVersion version).metadata.resourceVersion = some version := rfl

/-- A store of bundles and controllers. -/
structure Store where
  /-- The namespace of the bundles that are listed. -/
  space : String
  /-- The name of the controller that names the active bundle. -/
  controllerName : String
  /-- The bundles. -/
  bundles : Shelf Bundle Bundle.address
  /-- The controllers. -/
  controllers : Shelf Controller Controller.address
  /-- The namespaces that were created, the latest one first. -/
  spaces : List String
  /-- How many versions were given. -/
  revision : Nat

/-- A write over a stored version is refused if it carries another one. -/
def checkVersion (kind : ResourceKind) (name : String) (stored incoming : Option String) :
    Except BundleError Unit :=
  match incoming with
  | none => .ok ()
  | some expected =>
      if stored = some expected then .ok () else .error (.conflict kind name expected)

/-- A write without a version, or with the stored one, is let through. -/
theorem checkVersion_eq_ok
    {kind : ResourceKind}
    {name : String}
    {stored incoming : Option String}
    (based : ∀ expected, incoming = some expected → stored = some expected) :
    checkVersion kind name stored incoming = .ok () := by
  cases incoming with
  | none => rfl
  | some expected => simp [checkVersion, based expected rfl]

/-- A write with another version than the stored one is refused. -/
theorem checkVersion_eq_conflict
    {kind : ResourceKind}
    {name expected : String}
    {stored : Option String}
    (different : stored ≠ some expected) :
    checkVersion kind name stored (some expected) = .error (.conflict kind name expected) := by
  simp [checkVersion, different]

namespace Store

/-- The store of a configuration, without documents. -/
def empty (configuration : Configuration) : Store :=
  ⟨configuration.space, configuration.controllerName, .empty, .empty, [], 0⟩

/-- The version that the next write gives. -/
def nextVersion (store : Store) : String :=
  Text.decimal (store.revision + 1)

/-- The store after one more version was given. -/
def advance (store : Store) : Store :=
  { store with revision := store.revision + 1 }

/-- The bundle at an address. -/
def bundle? (store : Store) (address : Address) : Option Bundle :=
  store.bundles.get? address

/-- The controller at an address. -/
def controller? (store : Store) (address : Address) : Option Controller :=
  store.controllers.get? address

/-- The bundles in the namespace of the store, the newest first. -/
def listBundles (store : Store) : List Bundle :=
  sortBundles (store.bundles.items.filter fun bundle => bundle.space == store.space)

/-- Store a controller whatever is stored. -/
def putController (store : Store) (controller : Controller) : Controller × Store :=
  let written := controller.withVersion store.nextVersion
  (written,
    { store.advance with
      controllers :=
        store.controllers.put controller.address written (controller.address_withVersion _) })

/-- Store a bundle if none is stored at its address. -/
def createBundle (store : Store) (bundle : Bundle) : Except BundleError Bundle × Store :=
  match store.bundle? bundle.address with
  | some _ => (.error (.conflict .bundle bundle.name "absent"), store)
  | none =>
      let written := bundle.withVersion store.nextVersion
      (.ok written,
        { store.advance with
          bundles := store.bundles.put bundle.address written (bundle.address_withVersion _) })

/-- Write over the document at an address, which has to have the version that the write is
based on.  A version is given away even if the write is refused. -/
def overwrite {Item : Type}
    (store : Store)
    (kind : ResourceKind)
    (address : Address)
    (stored : Option Item)
    (versionOf : Item → Option String)
    (incoming : Option String)
    (write : Item → Item × Store) :
    Except BundleError Item × Store :=
  match stored with
  | none => (.error (.notFound kind address.space address.name), store.advance)
  | some old =>
      match checkVersion kind address.name (versionOf old) incoming with
      | .error failure => (.error failure, store.advance)
      | .ok () => (.ok (write old).1, (write old).2)

section Overwrite

variable {Item : Type} {store : Store} {kind : ResourceKind} {address : Address}
  {versionOf : Item → Option String} {write : Item → Item × Store}

/-- Nothing is written where nothing is stored. -/
theorem overwrite_of_absent (incoming : Option String) :
    store.overwrite kind address none versionOf incoming write =
      (.error (.notFound kind address.space address.name), store.advance) := rfl

/-- A stale write is refused. -/
theorem overwrite_of_stale
    {old : Item}
    {expected : String}
    (different : versionOf old ≠ some expected) :
    store.overwrite kind address (some old) versionOf (some expected) write =
      (.error (.conflict kind address.name expected), store.advance) := by
  simp only [overwrite, checkVersion_eq_conflict different]

/-- A write that is based on the stored version is carried out. -/
theorem overwrite_of_current
    {old : Item}
    {incoming : Option String}
    (based : ∀ expected, incoming = some expected → versionOf old = some expected) :
    store.overwrite kind address (some old) versionOf incoming write =
      (.ok (write old).1, (write old).2) := by
  simp only [overwrite, checkVersion_eq_ok based]

end Overwrite

/-- A stored bundle as it is written with the state of another one. -/
def nextState (store : Store) (bundle stored : Bundle) : Bundle :=
  { stored with state := bundle.state }.withVersion store.nextVersion

/-- A controller as it is written with the status of a stored one. -/
def nextSpec (store : Store) (controller stored : Controller) : Controller :=
  { controller with status := stored.status }.withVersion store.nextVersion

/-- A stored controller as it is written with the status of another one. -/
def nextStatus (store : Store) (controller stored : Controller) : Controller :=
  { stored with status := controller.status }.withVersion store.nextVersion

@[simp] theorem address_nextState (store : Store) (bundle stored : Bundle) :
    (store.nextState bundle stored).address = stored.address := rfl

@[simp] theorem address_nextSpec (store : Store) (controller stored : Controller) :
    (store.nextSpec controller stored).address = controller.address := rfl

@[simp] theorem address_nextStatus (store : Store) (controller stored : Controller) :
    (store.nextStatus controller stored).address = stored.address := rfl

/-- Store the state of a bundle; everything else stays as it is stored. -/
def saveBundleStatus (store : Store) (bundle : Bundle) : Except BundleError Bundle × Store :=
  store.overwrite .bundle bundle.address (store.bundle? bundle.address)
    (fun stored => stored.metadata.resourceVersion) bundle.metadata.resourceVersion
    fun stored =>
      (store.nextState bundle stored,
        { store.advance with
          bundles := store.bundles.revise bundle.address (store.nextState bundle)
            fun stored here => (store.address_nextState bundle stored).trans here })

/-- Store a controller; its status stays as it is stored. -/
def saveController (store : Store) (controller : Controller) :
    Except BundleError Controller × Store :=
  store.overwrite .controller controller.address (store.controller? controller.address)
    (fun stored => stored.metadata.resourceVersion) controller.metadata.resourceVersion
    fun stored =>
      (store.nextSpec controller stored,
        { store.advance with
          controllers := store.controllers.revise controller.address (store.nextSpec controller)
            fun stored _ => store.address_nextSpec controller stored })

/-- Store the status of a controller; everything else stays as it is stored. -/
def saveControllerStatus (store : Store) (controller : Controller) :
    Except BundleError Controller × Store :=
  store.overwrite .controller controller.address (store.controller? controller.address)
    (fun stored => stored.metadata.resourceVersion) controller.metadata.resourceVersion
    fun stored =>
      (store.nextStatus controller stored,
        { store.advance with
          controllers := store.controllers.revise controller.address (store.nextStatus controller)
            fun stored here => (store.address_nextStatus controller stored).trans here })

/-- Create a namespace unless it exists. -/
def ensureSpace (store : Store) (name : String) : Store :=
  if store.spaces.contains name then store
  else { store with spaces := name :: store.spaces }

/-- The controller that names the active bundle. -/
def reservedController (store : Store) : Except BundleError Controller :=
  match store.controller? ⟨store.space, store.controllerName⟩ with
  | some controller => .ok controller
  | none => .error (.notFound .controller store.space store.controllerName)

/-- Whether a bundle is the active one. -/
def isActive (store : Store) (bundle : Bundle) : Except BundleError Bool :=
  store.reservedController.map fun controller =>
    bundle.space == store.space && bundle.name == controller.spec.activeBundle

/-- The active bundle. -/
def activeBundle (store : Store) : Except BundleError Bundle :=
  match store.reservedController with
  | .error failure => .error failure
  | .ok controller =>
      match store.bundle? ⟨store.space, controller.spec.activeBundle⟩ with
      | some bundle => .ok bundle
      | none => .error (.notFound .bundle store.space controller.spec.activeBundle)

end Store

end BundleTrust
