import BundleTrust.Store.Basic

/-!
# Requests to a store

What managers ask of a store.  A store answers every request in one step.
-/

namespace BundleTrust

/-- What is asked of a store. -/
inductive StoreRequest where
  /-- List the bundles in the namespace of the store, the newest first. -/
  | listBundles
  /-- Store a new bundle. -/
  | createBundle (bundle : Bundle)
  /-- Store the state of a bundle. -/
  | saveBundleStatus (bundle : Bundle)
  /-- Store a controller except its status. -/
  | saveController (controller : Controller)
  /-- Store the status of a controller. -/
  | saveControllerStatus (controller : Controller)
  /-- Create a namespace unless it exists. -/
  | ensureSpace (name : String)
  /-- Tell whether a bundle is the active one. -/
  | isActive (bundle : Bundle)
  /-- Find the active bundle. -/
  | activeBundle

/-- What a request to a store yields if it succeeds. -/
abbrev StoreRequest.Result : StoreRequest → Type
  | .listBundles => List Bundle
  | .createBundle _ => Bundle
  | .saveBundleStatus _ => Bundle
  | .saveController _ => Controller
  | .saveControllerStatus _ => Controller
  | .ensureSpace _ => Unit
  | .isActive _ => Bool
  | .activeBundle => Bundle

/-- The reply of a store to a request, and the store afterwards. -/
def Store.answer (store : Store) :
    (request : StoreRequest) → Except BundleError request.Result × Store
  | .listBundles => (.ok store.listBundles, store)
  | .createBundle bundle => store.createBundle bundle
  | .saveBundleStatus bundle => store.saveBundleStatus bundle
  | .saveController controller => store.saveController controller
  | .saveControllerStatus controller => store.saveControllerStatus controller
  | .ensureSpace name => (.ok (), store.ensureSpace name)
  | .isActive bundle => (store.isActive bundle, store)
  | .activeBundle => (store.activeBundle, store)

end BundleTrust
