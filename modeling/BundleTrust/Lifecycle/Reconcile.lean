import BundleTrust.Lifecycle.Evaluation
import BundleTrust.Manager.Plan

/-!
# Reconciling bundles

The lifecycle manager derives the state of a bundle and stores it if it changed.  States that
need no look at the cluster are derived without one.
-/

namespace BundleTrust

/-- What came of the reconciliation of a bundle. -/
structure LifecycleUpdate where
  /-- The state of the bundle. -/
  state : BundleState
  /-- Whether the state was stored; it is not if it was there already. -/
  isChanged : Bool
  deriving DecidableEq, Repr

/-- The manager of the lifecycle of bundles. -/
structure LifecycleManager where
  /-- The configuration. -/
  configuration : Configuration
  /-- The domain that bundles are checked under. -/
  domain : TrustDomain

namespace LifecycleManager

/-- The manager of a configuration. -/
def ofConfiguration (configuration : Configuration) : LifecycleManager :=
  ⟨configuration, configuration.trustDomain⟩

/-- Derive the state of a bundle. -/
def compute {Held : Type} (manager : LifecycleManager) (bundle : Bundle) :
    Reconciliation Held BundleState := do
  if bundle.space ≠ manager.configuration.space then return .ignored
  if !bundle.hasValidVersion then return .invalidVersion
  let server ← Reconciliation.demand (.serverVersion manager.configuration.controllerName)
  let isActive ← Reconciliation.demand (.store (.isActive bundle))
  let bundles ← Reconciliation.demand (.store .listBundles)
  return bundle.evaluateState
    ⟨manager.configuration.space, server, manager.domain, isActive, bundles⟩

/-- Derive the state of the bundle that is held and store it if it changed.  The bundle is
then held as it was stored. -/
def reconcile (manager : LifecycleManager) : Reconciliation Bundle LifecycleUpdate := do
  let bundle ← get
  let state ← manager.compute bundle
  if bundle.state = some state then return ⟨state, false⟩
  let changed := { bundle with state := some state }
  set changed
  let stored ← Reconciliation.demand (.store (.saveBundleStatus changed))
  set (σ := Bundle) stored
  return ⟨state, true⟩

end LifecycleManager

end BundleTrust
