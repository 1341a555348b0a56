import BundleTrust.Proofs.Controller.Adoption
import BundleTrust.Proofs.Store.Views

/-!
# Admitted controllers resolve

A controller is admitted if the bundle that it names is listed and made for the server.  Once it
is stored, the store finds that bundle, whatever was done in between and is done afterwards, until
the spec of the controller is written again (`admitted_controller_resolves`): bundles are never
removed, and the name that a controller has for its bundle is part of its content.
-/

namespace BundleTrust

namespace Store

/-- A store finds the bundle that its controller names: one of that name, which is made for a
server and is the active one. -/
structure Resolves (store : Store) (name : String) (server : ServerVersion) (bundle : Bundle) :
    Prop where
  /-- It is the active bundle. -/
  found : store.activeBundle = .ok bundle
  /-- It has the name. -/
  name_eq : bundle.name = name
  /-- It is made for the server. -/
  isMade : bundle.isMadeFor server = .ok true
  /-- The store takes it for the active one. -/
  isActive : store.isActive bundle = .ok true

section Resolution

variable {store : Store} {controller : Controller} {server : ServerVersion}

/-- A store resolves what its controller names if that is stored and made for the server. -/
theorem exists_resolves
    (reserved : store.reservedController = .ok controller)
    (stored : (store.bundle? ⟨store.space, controller.spec.activeBundle⟩).isSome)
    (accepted : server.AcceptsName controller.spec.activeBundle) :
    ∃ bundle, store.Resolves controller.spec.activeBundle server bundle := by
  obtain ⟨bundle, isBundle⟩ := Option.isSome_iff_exists.1 stored
  obtain ⟨version, parsed, isAccepted⟩ := accepted
  have address : bundle.address = ⟨store.space, controller.spec.activeBundle⟩ :=
    Shelf.address_of_get? isBundle
  have named : bundle.name = controller.spec.activeBundle := congrArg Address.name address
  refine ⟨bundle, activeBundle_eq_ok reserved isBundle, named, ?_, ?_⟩
  · simp only [Bundle.isMadeFor, Bundle.version, named, parsed, Except.map, isAccepted]
  · rw [isActive_eq_ok reserved, address]
    simp

/-- A controller that was saved is stored with the content that it was saved with. -/
theorem exists_controller?_saved
    {written : Controller}
    (saved : (store.saveController controller).1 = .ok written) :
    ∃ kept, (store.perform (.request (.saveController controller))).controller?
        controller.address = some kept ∧ kept.content = controller.content := by
  have stores : store.written? (.request (.saveController controller)) =
      some (.controller written) :=
    written?_of_outcome (congrArg (Except.map _) saved)
  have found := find?_of_written? stores
  cases puts_of_written? stores with
  | spec _ old _ => exact ⟨_, find?_eq_controller_iff.1 found, rfl⟩

/-- A bundle of a name is listed exactly if one is stored in the namespace of the store. -/
theorem exists_mem_listBundles_iff {name : String} :
    (∃ bundle ∈ store.listBundles, bundle.name = name) ↔
      (store.bundle? ⟨store.space, name⟩).isSome := by
  rw [← any_listBundles]
  simp

/-- Once a name is listed, a bundle of that name is stored after every run. -/
theorem isSome_bundle?_run
    {name : String}
    (listed : ∃ bundle ∈ store.listBundles, bundle.name = name)
    (operations : List StoreOperation) :
    ((store.run operations).bundle? ⟨store.space, name⟩).isSome := by
  obtain ⟨old, isOld⟩ := Option.isSome_iff_exists.1 (exists_mem_listBundles_iff.1 listed)
  obtain ⟨kept, isKept, -⟩ := exists_bundle?_run isOld operations
  exact Option.isSome_iff_exists.2 ⟨kept, isKept⟩

end Resolution

end Store

/-- A controller that was admitted over the bundles of a store, and was saved after anything else
was done, has its bundle resolved in every later state of the store, until its spec is written
again. -/
theorem admitted_controller_resolves
    {configuration : Configuration}
    {store : Store}
    {controller written : Controller}
    {server : ServerVersion}
    {between later : List StoreOperation}
    (isFor : store.IsFor configuration)
    (reserved : controller.address = ⟨configuration.space, configuration.controllerName⟩)
    (admitted : (validateActiveBundle controller store.listBundles server).isAllowed)
    (saved : ((store.run between).saveController controller).1 = .ok written)
    (unwritten : ((store.run between).perform (.request (.saveController controller))).LeavesSpec
      controller.address later) :
    ∃ bundle,
      (store.run (between ++ .request (.saveController controller) :: later)).Resolves
        controller.spec.activeBundle server bundle := by
  obtain ⟨listed, accepted⟩ := isAllowed_validateActiveBundle_iff.1 admitted
  obtain ⟨first, isFirst, sameFirst⟩ := Store.exists_controller?_saved saved
  obtain ⟨kept, isKept, same⟩ := Store.exists_controller?_run isFirst unwritten
  have spec : kept.spec = controller.spec := Controller.spec_eq_of_content_eq (same.trans sameFirst)
  have stored := Store.isSome_bundle?_run listed
    (between ++ .request (.saveController controller) :: later)
  have isForNow := isFor.run (between ++ .request (.saveController controller) :: later)
  rw [← Store.run_cons, ← Store.run_append, reserved, ← isForNow.space,
    ← isForNow.controllerName] at isKept
  rw [isFor.space, ← isForNow.space, ← spec] at stored
  rw [← spec] at accepted ⊢
  exact Store.exists_resolves (Store.reservedController_eq_ok isKept) stored accepted

namespace ResolutionExample

/-- The bundle that is chosen. -/
def bundle : Bundle := .named "eksa-packages" "v1-21-1001"

/-- The controller that names it. -/
def choosing : Controller :=
  { Controller.named "eksa-packages" "eksa-packages-bundle-controller" with
    spec := { ControllerSpec.standard with activeBundle := "v1-21-1001" } }

/-- A store with the bundle and with a controller that names none. -/
def store : Store :=
  (Store.empty .standard).run
    [.putController (.named "eksa-packages" "eksa-packages-bundle-controller"),
      .request (.createBundle bundle)]

/-- Before the controller is stored, there is a newer bundle. -/
def between : List StoreOperation :=
  [.request (.createBundle (.named "eksa-packages" "v1-21-1002"))]

/-- After it, states are stored, and a spec is refused that is based on a stale version. -/
def later : List StoreOperation :=
  [.request (.saveBundleStatus { bundle with state := some .upgradeAvailable }),
    .request (.saveController ((choosing.withVersion "1").withActiveBundle "v1-21-1002")),
    .request (.saveControllerStatus { choosing with status := ⟨.upgradeAvailable, "newer"⟩ })]

/-- The chosen bundle is resolved after all of that. -/
theorem chosen_bundle_resolves :
    ∃ found, (store.run (between ++ .request (.saveController choosing) :: later)).Resolves
      "v1-21-1001" ⟨"1", "21"⟩ found := by
  have admitted : (validateActiveBundle choosing store.listBundles ⟨"1", "21"⟩).isAllowed :=
    isAllowed_validateActiveBundle_iff.2
      ⟨Store.exists_mem_listBundles_iff.2 (by decide), by decide⟩
  have saved : ((store.run between).saveController choosing).1 =
      .ok (choosing.withVersion "4") := by decide
  exact admitted_controller_resolves ((Store.isFor_empty .standard).run _) (by decide) admitted
    saved ⟨by decide, by decide, by decide, trivial⟩

end ResolutionExample

end BundleTrust
