import BundleTrust.Proofs.Store.Run

/-!
# Writing back what is stored

A client that holds a controller as it is stored can bring it up to date: no version check
refuses it.  What is then stored is the controller with its new spec and status, and no
other controller is changed (`Store.Updates`).
-/

namespace BundleTrust
namespace Store

/-! ## The store of a configuration -/

/-- A store in which a configuration has its bundles and its controller. -/
structure IsFor (store : Store) (configuration : Configuration) : Prop where
  /-- The bundles that are listed are in the namespace of the configuration. -/
  space : store.space = configuration.space
  /-- The controller that names the active bundle is that of the configuration. -/
  controllerName : store.controllerName = configuration.controllerName

section IsFor

variable {store : Store} {configuration : Configuration}

/-- A write over a stored document, or its refusal, leaves the store that of a configuration. -/
theorem IsFor.overwrite {Item : Type}
    {kind : ResourceKind}
    {address : Address}
    {stored : Option Item}
    {versionOf : Item → Option String}
    {incoming : Option String}
    {write : Item → Item × Store}
    (isFor : store.IsFor configuration)
    (writes : ∀ item, (write item).2.IsFor configuration) :
    (store.overwrite kind address stored versionOf incoming write).2.IsFor configuration := by
  have advanced : store.advance.IsFor configuration := ⟨isFor.space, isFor.controllerName⟩
  unfold Store.overwrite
  split
  · exact advanced
  · split
    · exact advanced
    · exact writes _

/-- Whatever is asked of it, the store of a configuration stays one. -/
theorem IsFor.answer
    (isFor : store.IsFor configuration)
    (request : StoreRequest) :
    (store.answer request).2.IsFor configuration := by
  have put : ∀ bundles controllers spaces revision, IsFor
      ⟨store.space, store.controllerName, bundles, controllers, spaces, revision⟩
      configuration := fun _ _ _ _ => ⟨isFor.space, isFor.controllerName⟩
  cases request with
  | createBundle bundle =>
      simp only [Store.answer, createBundle]
      split
      · exact isFor
      · exact put _ _ _ _
  | saveBundleStatus bundle => exact isFor.overwrite fun _ => put _ _ _ _
  | saveController controller => exact isFor.overwrite fun _ => put _ _ _ _
  | saveControllerStatus controller => exact isFor.overwrite fun _ => put _ _ _ _
  | ensureSpace name =>
      simp only [Store.answer, ensureSpace]
      split
      · exact isFor
      · exact put _ _ _ _
  | _ => exact isFor

/-- Whatever is done with it, the store of a configuration stays one. -/
theorem IsFor.perform
    (isFor : store.IsFor configuration)
    (operation : StoreOperation) :
    (store.perform operation).IsFor configuration := by
  cases operation with
  | request request => exact isFor.answer request
  | putController controller => exact ⟨isFor.space, isFor.controllerName⟩
  | getBundle address => exact isFor
  | getController address => exact isFor
  | listSpaces => exact isFor

theorem IsFor.run
    (isFor : store.IsFor configuration)
    (operations : List StoreOperation) :
    (store.run operations).IsFor configuration := by
  induction operations generalizing store with
  | nil => exact isFor
  | cons operation rest ih => exact ih (isFor.perform operation)

theorem isFor_empty (configuration : Configuration) : (empty configuration).IsFor configuration :=
  ⟨rfl, rfl⟩

end IsFor

/-! ## Bundles -/

section Bundles

variable {store after : Store} {bundle : Bundle}

theorem bundle?_congr
    (same : after.bundles = store.bundles)
    (address : Address) :
    after.bundle? address = store.bundle? address :=
  congrArg (Shelf.get? · address) same

/-- What is listed are the bundles that are stored in the namespace of the store. -/
theorem mem_listBundles_iff {store : Store} {bundle : Bundle} :
    bundle ∈ store.listBundles ↔
      bundle.space = store.space ∧ store.bundle? bundle.address = some bundle := by
  rw [listBundles, sortBundles, sortNewestFirst, List.mem_mergeSort, List.mem_filter,
    Shelf.mem_items_iff, beq_iff_eq]
  exact and_comm

/-- A bundle of some name is listed exactly if one is stored in the namespace of the store. -/
theorem any_listBundles (store : Store) (name : String) :
    (store.listBundles.any fun bundle => bundle.name == name) =
      (store.bundle? ⟨store.space, name⟩).isSome := by
  rw [listBundles, sortBundles, sortNewestFirst, (List.mergeSort_perm _ _).any_eq, List.any_filter,
    bundle?, Shelf.isSome_get?]
  simp [Bundle.address, Bool.beq_eq_decide_eq]

@[simp] theorem controllers_createBundle (store : Store) (bundle : Bundle) :
    (store.createBundle bundle).2.controllers = store.controllers := by
  unfold createBundle
  split <;> rfl

@[simp] theorem controllers_saveBundleStatus (store : Store) (bundle : Bundle) :
    (store.saveBundleStatus bundle).2.controllers = store.controllers := by
  unfold saveBundleStatus overwrite
  split
  · rfl
  · split <;> rfl

@[simp] theorem bundles_ensureSpace (store : Store) (name : String) :
    (store.ensureSpace name).bundles = store.bundles := by
  unfold ensureSpace
  split <;> rfl

@[simp] theorem controllers_ensureSpace (store : Store) (name : String) :
    (store.ensureSpace name).controllers = store.controllers := by
  unfold ensureSpace
  split <;> rfl

/-- A bundle is created where none is stored. -/
theorem createBundle_of_absent
    (absent : store.bundle? bundle.address = none) :
    (store.createBundle bundle).1 = .ok (bundle.withVersion store.nextVersion) := by
  rw [createBundle, absent]

/-- A store came from another one by storing bundles where none were stored. -/
structure Gains (store : Store) (bundles : List Bundle) (after : Store) : Prop where
  /-- No bundle that was stored is changed. -/
  kept : ∀ address bundle, store.bundle? address = some bundle →
    after.bundle? address = some bundle
  /-- There is a bundle at the address of each one that was to be stored. -/
  isStored : ∀ bundle ∈ bundles, (after.bundle? bundle.address).isSome
  /-- Every bundle was stored before or is one of those that were to be stored. -/
  origin : ∀ address bundle, after.bundle? address = some bundle →
    store.bundle? address = some bundle ∨
      ∃ gained ∈ bundles, gained.address = address ∧
        ∃ version, bundle = gained.withVersion version

theorem gains_createBundle (store : Store) (bundle : Bundle) :
    store.Gains [bundle] (store.createBundle bundle).2 := by
  cases found : store.bundle? bundle.address with
  | some stored =>
      rw [createBundle, found]
      refine ⟨fun _ _ same => same, fun other isOther => ?_, fun _ _ same => .inl same⟩
      rw [List.mem_singleton.1 isOther, found]
      rfl
  | none =>
      have lookup (address : Address) :
          (store.createBundle bundle).2.bundle? address =
            if bundle.address = address then some (bundle.withVersion store.nextVersion)
            else store.bundle? address := by
        rw [createBundle, found]
        exact Shelf.get?_put _ _ _ (bundle.address_withVersion _) _
      refine ⟨fun address other same => ?_, fun other isOther => ?_, fun address other same => ?_⟩
      · have different : bundle.address ≠ address := by
          rintro rfl
          cases found.symm.trans same
        exact (lookup address).trans ((if_neg different).trans same)
      · rw [List.mem_singleton.1 isOther]
        exact Option.isSome_iff_exists.2 ⟨_, (lookup bundle.address).trans (if_pos rfl)⟩
      · have here := (lookup address).symm.trans same
        split at here
        · next atAddress =>
            exact .inr ⟨bundle, List.mem_singleton.2 rfl, atAddress, _, (Option.some.inj here).symm⟩
        · exact .inl here

/-- A store in which no bundle changed. -/
theorem Gains.of_bundles (same : after.bundles = store.bundles) : store.Gains [] after :=
  ⟨fun address _ found => (bundle?_congr same address).trans found, by simp,
    fun address _ found => .inl ((bundle?_congr same address).symm.trans found)⟩

/-- Bundles that are stored after others. -/
theorem Gains.trans
    {between : Store}
    {bundles others : List Bundle}
    (first : store.Gains bundles between)
    (second : between.Gains others after) :
    store.Gains (bundles ++ others) after := by
  refine ⟨fun address bundle found => second.kept _ _ (first.kept _ _ found),
    fun bundle isBundle => ?_, fun address bundle found => ?_⟩
  · rcases List.mem_append.1 isBundle with early | late
    · obtain ⟨stored, found⟩ := Option.isSome_iff_exists.1 (first.isStored bundle early)
      exact Option.isSome_iff_exists.2 ⟨stored, second.kept _ _ found⟩
    · exact second.isStored bundle late
  · rcases second.origin _ _ found with early | ⟨gained, isGained, located⟩
    · rcases first.origin _ _ early with old | ⟨gained, isGained, located⟩
      · exact .inl old
      · exact .inr ⟨gained, List.mem_append_left _ isGained, located⟩
    · exact .inr ⟨gained, List.mem_append_right _ isGained, located⟩

end Bundles

/-! ## Controllers -/

section Controllers

variable {store after after' : Store} {controller written written' : Controller}
  {spec : ControllerSpec} {status : ControllerStatus}

theorem controller?_congr
    (same : after.controllers = store.controllers)
    (address : Address) :
    after.controller? address = store.controller? address :=
  congrArg (Shelf.get? · address) same

theorem reservedController_eq_ok
    (stored : store.controller? ⟨store.space, store.controllerName⟩ = some controller) :
    store.reservedController = .ok controller := by
  rw [reservedController, stored]

/-- The status of a controller that is held as it is stored can be written. -/
theorem saveControllerStatus_of_stored
    (stored : store.controller? controller.address = some controller)
    (status : ControllerStatus) :
    store.saveControllerStatus { controller with status := status } =
      (.ok (store.putController { controller with status := status }).1,
        (store.putController { controller with status := status }).2) := by
  have found : store.controllers.get? { controller with status := status }.address =
      some controller := stored
  rw [saveControllerStatus, controller?, found,
    overwrite_of_current fun expected carried => carried, Shelf.revise_eq_put found]
  rfl

/-- A controller that is held as it is stored, except its spec, can be written. -/
theorem saveController_of_stored
    (stored : store.controller? controller.address = some controller)
    (spec : ControllerSpec) :
    store.saveController { controller with spec := spec } =
      (.ok (store.putController { controller with spec := spec }).1,
        (store.putController { controller with spec := spec }).2) := by
  have found : store.controllers.get? { controller with spec := spec }.address = some controller :=
    stored
  rw [saveController, controller?, found, overwrite_of_current fun expected carried => carried,
    Shelf.revise_eq_put found]
  rfl

/-- Storing a status changes no spec. -/
theorem spec_saveControllerStatus
    (store : Store)
    (controller : Controller)
    (address : Address) :
    ((store.saveControllerStatus controller).2.controller? address).map Controller.spec =
      (store.controller? address).map Controller.spec := by
  unfold saveControllerStatus overwrite
  split
  · rfl
  · next old found =>
      split
      · rfl
      · simp only [Store.controller?, Shelf.get?_revise, Option.map_map]
        refine congrArg (Option.map · _) (funext fun stored => ?_)
        simp only [Function.comp_apply, apply_ite Controller.spec]
        exact ite_self _

/-- Bring the status of a controller up to date; nothing is written if it is up to date. -/
def updateStatus (store : Store) (controller : Controller) (status : ControllerStatus) :
    Controller × Store :=
  if controller.status = status then (controller, store)
  else store.putController { controller with status := status }

/-- A store came from another one by bringing a stored controller up to date. -/
structure Updates (store : Store) (controller : Controller) (spec : ControllerSpec)
    (status : ControllerStatus) (after : Store) (written : Controller) : Prop where
  /-- The controller that is stored has a spec and a status, and all else is as before. -/
  document : ∃ version, written =
    { controller with
      spec := spec
      status := status
      metadata := { controller.metadata with resourceVersion := version } }
  /-- It is stored. -/
  stored : after.controller? controller.address = some written
  /-- No other controller is changed. -/
  others : ∀ address, address ≠ controller.address →
    after.controller? address = store.controller? address

theorem Updates.spec_eq (updates : store.Updates controller spec status after written) :
    written.spec = spec := by
  obtain ⟨version, rfl⟩ := updates.document
  rfl

theorem Updates.status_eq (updates : store.Updates controller spec status after written) :
    written.status = status := by
  obtain ⟨version, rfl⟩ := updates.document
  rfl

theorem Updates.address_eq (updates : store.Updates controller spec status after written) :
    written.address = controller.address := by
  obtain ⟨version, rfl⟩ := updates.document
  rfl

/-- A store in which no controller changed has every controller up to date. -/
theorem Updates.refl
    (stored : store.controller? controller.address = some controller)
    (same : after.controllers = store.controllers) :
    store.Updates controller controller.spec controller.status after controller :=
  ⟨⟨_, rfl⟩, (controller?_congr same _).trans stored, fun address _ =>
    controller?_congr same address⟩

/-- A controller that is put is found at its address, and all others as before. -/
theorem controller?_putController
    (store : Store)
    (controller : Controller)
    (address : Address) :
    (store.putController controller).2.controller? address =
      if controller.address = address then some (store.putController controller).1
      else store.controller? address :=
  Shelf.get?_put _ _ _ (controller.address_withVersion _) _

/-- Putting a controller in place of a stored one brings that one up to date. -/
theorem updates_putController
    (store : Store)
    (controller : Controller)
    (spec : ControllerSpec)
    (status : ControllerStatus) :
    store.Updates controller spec status
      (store.putController { controller with spec := spec, status := status }).2
      (store.putController { controller with spec := spec, status := status }).1 := by
  refine ⟨⟨some store.nextVersion, rfl⟩, ?_, fun address different => ?_⟩
  · rw [controller?_putController]
    exact if_pos rfl
  · rw [controller?_putController]
    exact if_neg fun same => different same.symm

/-- A controller is up to date after the second of two updates that follow each other, where
the first one does not change the status and the second one does not change the spec. -/
theorem Updates.trans
    (first : store.Updates controller spec controller.status after written)
    (second : after.Updates written written.spec status after' written') :
    store.Updates controller spec status after' written' := by
  obtain ⟨version, rfl⟩ := first.document
  obtain ⟨version', rfl⟩ := second.document
  refine ⟨⟨version', rfl⟩, second.stored, fun address different => ?_⟩
  rw [second.others address different, first.others address different]

/-- A controller was brought up to date, and written only if that changed it. -/
structure Settles (store : Store) (controller : Controller) (spec : ControllerSpec)
    (status : ControllerStatus) (after : Store) (written : Controller) : Prop
    extends store.Updates controller spec status after written where
  /-- Where spec and status are as before, no controller is written. -/
  unwritten : spec = controller.spec → status = controller.status →
    written = controller ∧ after.controllers = store.controllers

/-- A stored controller with its status brought up to date. -/
theorem settles_updateStatus
    (stored : store.controller? controller.address = some controller)
    (status : ControllerStatus) :
    store.Settles controller controller.spec status (store.updateStatus controller status).2
      (store.updateStatus controller status).1 := by
  unfold updateStatus
  split
  · next same =>
      subst same
      exact ⟨.refl stored rfl, fun _ _ => ⟨rfl, rfl⟩⟩
  · next different =>
      exact ⟨store.updates_putController controller controller.spec status,
        fun _ same => absurd same.symm different⟩

/-- An update of a controller in a store that has the same controllers as another one. -/
theorem Settles.of_controllers
    {before : Store}
    (settles : store.Settles controller spec status after written)
    (same : store.controllers = before.controllers) :
    before.Settles controller spec status after written := by
  refine ⟨⟨settles.document, settles.stored, fun address different => ?_⟩,
    fun sameSpec sameStatus => ?_⟩
  · exact (settles.others address different).trans (controller?_congr same address)
  · exact (settles.unwritten sameSpec sameStatus).imp_right fun kept => kept.trans same

@[simp] theorem bundles_updateStatus
    (store : Store)
    (controller : Controller)
    (status : ControllerStatus) :
    (store.updateStatus controller status).2.bundles = store.bundles := by
  unfold updateStatus
  split <;> rfl

end Controllers

end Store
end BundleTrust
