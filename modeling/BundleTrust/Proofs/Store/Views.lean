import Mathlib.Data.List.Nodup
import BundleTrust.Proofs.Store.Contents
import BundleTrust.Proofs.Version.NewestFirst

/-!
# The views of a store

A store is looked at in three ways: bundles are listed by the namespace that they give themselves,
they are looked up by addresses, and one of them is the active one by the name that the reserved
controller has for it.  The three agree in every state that a store comes into
(`Store.views_agree`), since every operation writes under the address of the document that it is
given, so that every document stays filed at the address that it gives itself
(`Store.find?_perform_eq`).
-/

namespace BundleTrust
namespace Store

variable {store : Store}

/-! ## Documents under their addresses -/

/-- An operation that stores a document stores it under the address that the operation is for, and
leaves all other addresses as they are. -/
theorem find?_perform_eq
    (store : Store)
    (operation : StoreOperation)
    (place : Place) :
    (store.perform operation).find? place =
      if operation.target? = some place then (store.written? operation).or (store.find? place)
      else store.find? place := by
  rcases store.storesOrKeeps operation with ⟨document, written, stores⟩ | ⟨silent, keeps⟩
  · rw [stores.find?, written, (puts_of_written? written).target?_eq]
    by_cases here : document.place = place <;> simp [here]
  · rw [keeps.find?, silent]
    simp

/-! ## The list of bundles -/

/-- What is listed is stored, in the namespace of the store. -/
theorem mem_listBundles_iff_exists {bundle : Bundle} :
    bundle ∈ store.listBundles ↔
      bundle.space = store.space ∧ ∃ address, store.bundle? address = some bundle := by
  rw [mem_listBundles_iff]
  refine and_congr_right fun _ => ⟨fun stored => ⟨_, stored⟩, ?_⟩
  rintro ⟨address, stored⟩
  have filed : bundle.address = address := Shelf.address_of_get? stored
  rw [filed, stored]

/-- No two bundles are listed with one name. -/
theorem nodup_names_listBundles (store : Store) : (store.listBundles.map Bundle.name).Nodup := by
  have different : (store.bundles.items.filter fun bundle => bundle.space == store.space).Pairwise
      fun left right => left.name ≠ right.name := by
    refine List.pairwise_filter.2 (store.bundles.pairwise_items.imp fun {left right} isBefore => ?_)
    intro inSpace inSpace' sameName
    -- In one namespace only the names tell addresses apart.
    have sameSpace : left.space = right.space :=
      (beq_iff_eq.1 inSpace).trans (beq_iff_eq.1 inSpace').symm
    have sameAddress : left.address = right.address :=
      congrArg₂ Address.mk sameSpace sameName
    exact right.address.not_isBefore_self (sameAddress ▸ isBefore)
  have perm : store.listBundles.Perm
      (store.bundles.items.filter fun bundle => bundle.space == store.space) :=
    (isNewestFirst_sortNewestFirst Bundle.name _).perm
  exact (perm.map Bundle.name).nodup_iff.2 (List.pairwise_map.2 different)

/-- Bundles are listed in the order of their names, the newest first. -/
theorem pairwise_listBundles (store : Store) :
    store.listBundles.Pairwise fun left right =>
      compareNewestFirst left.name right.name ≠ .gt :=
  (isNewestFirst_sortNewestFirst Bundle.name _).ascending.imp compareNewestFirst_ne_gt_iff.2

/-! ## The active bundle -/

section Active

variable {controller : Controller}

/-- The active bundle is the one at the address that the reserved controller has for it. -/
theorem activeBundle_eq_ok
    {bundle : Bundle}
    (reserved : store.reservedController = .ok controller)
    (stored : store.bundle? ⟨store.space, controller.spec.activeBundle⟩ = some bundle) :
    store.activeBundle = .ok bundle := by
  simp only [activeBundle, reserved, stored]

/-- There is no active bundle if there is none at that address. -/
theorem activeBundle_eq_error
    (reserved : store.reservedController = .ok controller)
    (absent : store.bundle? ⟨store.space, controller.spec.activeBundle⟩ = none) :
    store.activeBundle =
      .error (.notFound .bundle store.space controller.spec.activeBundle) := by
  simp only [activeBundle, reserved, absent]

/-- A bundle is active if it is at the address that the reserved controller has for it. -/
theorem isActive_eq_ok
    {bundle : Bundle}
    (reserved : store.reservedController = .ok controller) :
    store.isActive bundle =
      .ok (decide (bundle.address = ⟨store.space, controller.spec.activeBundle⟩)) := by
  simp [isActive, reserved, Except.map, Bundle.address, Bool.beq_eq_decide_eq]

/-- A stored bundle is active exactly if it is found as the active one. -/
theorem isActive_iff_activeBundle
    {address : Address}
    {bundle : Bundle}
    (reserved : store.reservedController = .ok controller)
    (stored : store.bundle? address = some bundle) :
    store.isActive bundle = .ok true ↔ store.activeBundle = .ok bundle := by
  have filed : bundle.address = address := Shelf.address_of_get? stored
  rw [isActive_eq_ok reserved, Except.ok.injEq, decide_eq_true_iff, filed]
  constructor
  · rintro rfl
    exact activeBundle_eq_ok reserved stored
  · intro found
    cases named : store.bundle? ⟨store.space, controller.spec.activeBundle⟩ with
    | none => cases (activeBundle_eq_error reserved named).symm.trans found
    | some other =>
        cases (activeBundle_eq_ok reserved named).symm.trans found
        exact filed.symm.trans (Shelf.address_of_get? named)

/-- The active bundle is missed exactly if no stored bundle is active. -/
theorem activeBundle_eq_error_iff (reserved : store.reservedController = .ok controller) :
    store.activeBundle =
        .error (.notFound .bundle store.space controller.spec.activeBundle) ↔
      ∀ address bundle, store.bundle? address = some bundle →
        store.isActive bundle = .ok false := by
  constructor
  · intro missed address bundle stored
    have notFound := mt (isActive_iff_activeBundle reserved stored).1
      (by rw [missed]; exact fun same => by cases same)
    rw [isActive_eq_ok reserved] at notFound ⊢
    simpa using notFound
  · intro noneActive
    refine activeBundle_eq_error reserved
      (Option.eq_none_iff_forall_ne_some.2 fun bundle stored => ?_)
    have inactive := noneActive _ bundle stored
    have filed : bundle.address = ⟨store.space, controller.spec.activeBundle⟩ :=
      Shelf.address_of_get? stored
    rw [isActive_eq_ok reserved, filed] at inactive
    simp at inactive

end Active

/-! ## All of them -/

/-- The views of a store with a namespace and with a name that is reserved for a controller
agree. -/
structure ViewsAgree (store : Store) (space controllerName : String) : Prop where
  /-- Every document is filed under the address that it gives itself, and found there. -/
  filed : (∀ place document, store.find? place = some document → document.place = place) ∧
    (∀ entry ∈ store.bundles.entries,
      entry.1 = entry.2.address ∧ store.bundle? entry.1 = some entry.2) ∧
    ∀ entry ∈ store.controllers.entries,
      entry.1 = entry.2.address ∧ store.controller? entry.1 = some entry.2
  /-- And so it stays: what an operation stores it stores at the address that it is for. -/
  kept : ∀ operation place, (store.perform operation).find? place =
    if operation.target? = some place then (store.written? operation).or (store.find? place)
    else store.find? place
  /-- What is listed are the stored bundles that give themselves the namespace. -/
  listed : ∀ bundle, bundle ∈ store.listBundles ↔
    bundle.space = space ∧ ∃ address, store.bundle? address = some bundle
  /-- Each of them is listed once, and no two with one name. -/
  once : store.listBundles.Nodup ∧ (store.listBundles.map Bundle.name).Nodup
  /-- They are listed in the order of their names, the newest first. -/
  ordered : store.listBundles.Pairwise fun left right =>
    compareNewestFirst left.name right.name ≠ .gt
  /-- If the reserved controller is stored, a stored bundle is active exactly if it is found as the
  active one. -/
  active : ∀ controller, store.controller? ⟨space, controllerName⟩ = some controller →
    ∀ address bundle, store.bundle? address = some bundle →
      (store.isActive bundle = .ok true ↔ store.activeBundle = .ok bundle)
  /-- Then at most one stored bundle is active. -/
  atMostOne : ∀ controller, store.controller? ⟨space, controllerName⟩ = some controller →
    ∀ address bundle address' bundle', store.bundle? address = some bundle →
      store.bundle? address' = some bundle' → store.isActive bundle = .ok true →
        store.isActive bundle' = .ok true → bundle = bundle'
  /-- And the active bundle is missed exactly if no stored bundle is active. -/
  missed : ∀ controller, store.controller? ⟨space, controllerName⟩ = some controller →
    (store.activeBundle = .error (.notFound .bundle space controller.spec.activeBundle) ↔
      ∀ address bundle, store.bundle? address = some bundle →
        store.isActive bundle = .ok false)

theorem viewsAgree (store : Store) : store.ViewsAgree store.space store.controllerName where
  filed := ⟨fun _ _ found => place_of_find? found, fun _ => Shelf.filed_and_found,
    fun _ => Shelf.filed_and_found⟩
  kept := store.find?_perform_eq
  listed _ := mem_listBundles_iff_exists
  once := ⟨.of_map Bundle.name store.nodup_names_listBundles, store.nodup_names_listBundles⟩
  ordered := store.pairwise_listBundles
  active _ reserved _ _ stored :=
    isActive_iff_activeBundle (reservedController_eq_ok reserved) stored
  atMostOne controller reserved address bundle address' bundle' stored stored' active active' := by
    have found := (isActive_iff_activeBundle (reservedController_eq_ok reserved) stored).1 active
    have found' := (isActive_iff_activeBundle (reservedController_eq_ok reserved) stored').1 active'
    exact Except.ok.inj (found.symm.trans found')
  missed _ reserved := activeBundle_eq_error_iff (reservedController_eq_ok reserved)

/-- Whatever was done with the store of a configuration, its views agree. -/
theorem views_agree (configuration : Configuration) (operations : List StoreOperation) :
    ((empty configuration).run operations).ViewsAgree configuration.space
      configuration.controllerName := by
  have isFor := (isFor_empty configuration).run operations
  rw [← isFor.space, ← isFor.controllerName]
  exact viewsAgree _

/-- Of two bundles of one name the one in the namespace of the store is active, and it is found. -/
theorem namesake_elsewhere_inactive :
    let bundle (space : String) : Bundle := .named space "v1-21-1001"
    let controller : Controller :=
      (Controller.named "eksa-packages" "eksa-packages-bundle-controller").withActiveBundle
        "v1-21-1001"
    let store := (empty .standard).run
      [.putController controller, .request (.createBundle (bundle "default")),
        .request (.createBundle (bundle "eksa-packages"))]
    store.activeBundle = .ok ((bundle "eksa-packages").withVersion "3") ∧
      store.isActive ((bundle "default").withVersion "2") = .ok false := by
  intro bundle controller store
  have agree := views_agree .standard [.putController controller,
    .request (.createBundle (bundle "default")), .request (.createBundle (bundle "eksa-packages"))]
  have reserved : store.controller? ⟨"eksa-packages", "eksa-packages-bundle-controller"⟩ =
      some (controller.withVersion "1") := by decide
  have stored : store.bundle? ⟨"eksa-packages", "v1-21-1001"⟩ =
      some ((bundle "eksa-packages").withVersion "3") := by decide
  exact ⟨(agree.active _ reserved _ _ stored).1 (by decide), by decide⟩

end Store
end BundleTrust
